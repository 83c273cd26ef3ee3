import KdbSchema.Table.Column
import KdbSchema.Proofs.Lists
import KdbSchema.Proofs.Naming.Identifier

/-!
# Resolved names and their texts

A name that was resolved for a record has an identifier as its base, and its namespace, if there is
one, passed the check and is not empty.  Such names are told apart by their texts, in which only
identifier characters and dots occur.
-/

namespace KdbSchema

/-- The base is an identifier and the namespace a sequence of identifiers. -/
structure QualifiedName.WellFormed (q : QualifiedName) : Prop where
  base : IsIdentifier q.base.toList
  space : ∀ s, q.space = some s → s ≠ "" ∧ checkNamespace s = .ok ()

theorem Record.qualifiedName_eq_ok_iff {ρ : Type} {config : Config} {r : Record ρ}
    {q : QualifiedName} :
    r.qualifiedName config = .ok q ↔
      q.base = r.tableName.getD (camelCase r.ident) ∧
      q.space = (r.marker.or config.defaultNamespace).filter (· ≠ "") ∧
      checkName .table config.reserved.tables q.base = .ok () ∧
      ∀ s, q.space = some s → checkNamespace s = .ok () := by
  unfold Record.qualifiedName
  rw [Except.bind_eq_ok_iff]
  cases hspace : (r.marker.or config.defaultNamespace).filter (· ≠ "") with
  | none =>
      constructor
      · rintro ⟨_, hbase, hq⟩
        cases hq
        exact ⟨rfl, rfl, Except.mapError_eq_ok_iff.mp hbase, by simp⟩
      · rintro ⟨hbase, hnone, hcheck, _⟩
        refine ⟨(), Except.mapError_eq_ok_iff.mpr (hbase ▸ hcheck), ?_⟩
        cases q
        simp_all
        rfl
  | some s =>
      constructor
      · rintro ⟨_, hbase, hrest⟩
        obtain ⟨_, hs, hq⟩ := Except.bind_eq_ok_iff.mp hrest
        cases hq
        refine ⟨rfl, rfl, Except.mapError_eq_ok_iff.mp hbase, ?_⟩
        rintro _ ⟨⟩
        exact Except.mapError_eq_ok_iff.mp hs
      · rintro ⟨hbase, hsome, hcheck, hs⟩
        refine ⟨(), Except.mapError_eq_ok_iff.mpr (hbase ▸ hcheck), ?_⟩
        apply Except.bind_eq_ok_iff.mpr
        refine ⟨(), Except.mapError_eq_ok_iff.mpr (hs s hsome), ?_⟩
        cases q
        simp_all
        rfl

theorem Record.qualifiedName_eq_error_iff {ρ : Type} {config : Config} {r : Record ρ}
    {e : Failure} :
    r.qualifiedName config = .error e ↔
      (∃ reason, checkName .table config.reserved.tables (r.tableName.getD (camelCase r.ident)) =
          .error reason ∧ e = .tableName r.ident (r.tableName.getD (camelCase r.ident)) reason) ∨
      (checkName .table config.reserved.tables (r.tableName.getD (camelCase r.ident)) = .ok () ∧
        ∃ s reason, (r.marker.or config.defaultNamespace).filter (· ≠ "") = some s ∧
          checkNamespace s = .error reason ∧ e = .tableName r.ident s reason) := by
  unfold Record.qualifiedName
  rw [Except.bind_eq_error_iff]
  constructor
  · rintro (hbase | ⟨_, hbase, hrest⟩)
    · obtain ⟨reason, hreason, he⟩ := Except.mapError_eq_error_iff.mp hbase
      exact Or.inl ⟨reason, hreason, he.symm⟩
    · cases hspace : (r.marker.or config.defaultNamespace).filter (· ≠ "") with
      | none =>
          rw [hspace] at hrest
          cases hrest
      | some s =>
          rw [hspace] at hrest
          rcases Except.bind_eq_error_iff.mp hrest with hs | ⟨_, _, hpure⟩
          · obtain ⟨reason, hreason, he⟩ := Except.mapError_eq_error_iff.mp hs
            exact Or.inr ⟨Except.mapError_eq_ok_iff.mp hbase, s, reason, rfl, hreason, he.symm⟩
          · cases hpure
  · rintro (⟨reason, hreason, rfl⟩ | ⟨hbase, s, reason, hs, hreason, rfl⟩)
    · exact Or.inl (Except.mapError_eq_error_iff.mpr ⟨reason, hreason, rfl⟩)
    · refine Or.inr ⟨(), Except.mapError_eq_ok_iff.mpr hbase, ?_⟩
      rw [hs]
      apply Except.bind_eq_error_iff.mpr
      exact Or.inl (Except.mapError_eq_error_iff.mpr ⟨reason, hreason, rfl⟩)

theorem Record.qualifiedName_wellFormed {ρ : Type} {config : Config} {r : Record ρ}
    {q : QualifiedName} (h : r.qualifiedName config = .ok q) : q.WellFormed := by
  obtain ⟨_, hspace, hbase, hcheck⟩ := Record.qualifiedName_eq_ok_iff.mp h
  refine ⟨(checkName_eq_ok_iff.mp hbase).1, ?_⟩
  intro s hs
  refine ⟨?_, hcheck s hs⟩
  rw [hs] at hspace
  simpa using (Option.filter_eq_some_iff.mp hspace.symm).2

namespace QualifiedName

variable {m n : QualifiedName}

/-! ## Texts of names -/

/-- What stands before the base in the text of a name. -/
def stem (n : QualifiedName) : List Char :=
  match n.space with
  | some s => '.' :: s.toList ++ ['.']
  | none => ['.']

theorem toList_text (n : QualifiedName) : n.text.toList = n.stem ++ n.base.toList := by
  unfold text stem
  cases n.space <;> simp

theorem stem_eq_concat (n : QualifiedName) : ∃ cs, n.stem = cs ++ ['.'] := by
  unfold stem
  cases n.space with
  | none => exact ⟨[], rfl⟩
  | some s => exact ⟨'.' :: s.toList, rfl⟩

theorem head?_text (n : QualifiedName) : n.text.toList.head? = some '.' := by
  rw [toList_text]
  unfold stem
  cases n.space <;> simp

theorem WellFormed.not_mem_text (hn : n.WellFormed) {c : Char} (hc : isNamePart c = false)
    (hdot : c ≠ '.') : c ∉ n.text.toList := by
  rw [toList_text, List.mem_append, not_or]
  refine ⟨?_, hn.base.not_mem hc⟩
  unfold stem
  cases hspace : n.space with
  | none => simpa using hdot
  | some s =>
      have hs := not_mem_of_checkNamespace (hn.space s hspace).2 hc hdot
      simp [hdot, hs]

theorem stem_injective (h : m.stem = n.stem) : m.space = n.space := by
  unfold stem at h
  cases hms : m.space with
  | none =>
      cases hns : n.space with
      | none => rfl
      | some t => simp [hms, hns] at h
  | some s =>
      cases hns : n.space with
      | none => simp [hms, hns] at h
      | some t =>
          simp only [hms, hns, List.cons_append, List.cons.injEq, true_and,
            List.append_cancel_right_eq] at h
          rw [String.toList_inj.mp h]

/-- Different names have different texts: the base is what follows the last dot. -/
theorem text_injective (hm : m.WellFormed) (hn : n.WellFormed) (h : m.text = n.text) :
    m = n := by
  have hdot : isNamePart '.' = false := by decide
  have hbaseM : '.' ∉ m.base.toList.reverse := by simpa using hm.base.not_mem hdot
  have hbaseN : '.' ∉ n.base.toList.reverse := by simpa using hn.base.not_mem hdot
  obtain ⟨ms, hms⟩ := m.stem_eq_concat
  obtain ⟨ns, hns⟩ := n.stem_eq_concat
  have hlist : m.text.toList.reverse = n.text.toList.reverse := by rw [h]
  rw [toList_text, toList_text, hms, hns] at hlist
  simp only [List.reverse_append, List.reverse_singleton, List.singleton_append] at hlist
  obtain ⟨hbase, hstem⟩ := append_cons_inj_of_not_mem hbaseM hbaseN hlist
  have hspace : m.space = n.space := by
    apply stem_injective
    rw [hms, hns, List.reverse_injective hstem]
  cases m
  cases n
  simp only [mk.injEq]
  exact ⟨hspace, String.toList_inj.mp (List.reverse_injective hbase)⟩

end QualifiedName

end KdbSchema

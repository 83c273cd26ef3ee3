import KdbSchema.Proofs.Compile.OrderOutcome

/-!
# Names and their texts

A text such as `.a.b.c` can be read as the name of several tables, if namespaces and bases may be
any texts.  A resolved name has no dot in its base and its namespace is not empty, so it can be told
from its text.  Tables that are declared together therefore differ in the texts of their names, and
two records whose tables would be written alike are refused, although only names are compared.
-/

namespace KdbSchema

variable {ρ σ : Type} {r : Record ρ} {s : Record σ} {c d : Config} {p q : QualifiedName}

theorem Record.space_ne_empty (h : r.qualifiedName c = .ok q) : q.space ≠ some "" := by
  intro hspace
  exact ((Record.qualifiedName_wellFormed h).space "" hspace).1 rfl

theorem Record.text_eq_iff (hp : r.qualifiedName c = .ok p) (hq : s.qualifiedName d = .ok q) :
    p.text = q.text ↔ p = q := by
  constructor
  · exact QualifiedName.text_injective (Record.qualifiedName_wellFormed hp)
      (Record.qualifiedName_wellFormed hq)
  · rintro rfl
    rfl

namespace Compiler

variable {k : Compiler} {ids : List RecordId} {out : List Table} {a b : RecordId}

theorem exists_tableName_of_order (h : k.order ids = .ok out) {t : Table} (ht : t ∈ out) :
    ∃ id ∈ ids, k.tableName id = .ok t.name := by
  obtain ⟨ts, hts, hout⟩ := order_eq_ok_iff.mp h
  have ht_built : t ∈ ts := (declarationOrder_of_orderTables hout).perm.mem_iff.mp ht
  obtain ⟨id, hid, htable⟩ := exists_left_of_forall₂ (mapM_eq_ok_iff.mp hts) ht_built
  exact ⟨id, List.mem_eraseDups.mp hid, tableName_of_table htable⟩

theorem texts_nodup_of_order (h : k.order ids = .ok out) :
    (out.map fun t => t.name.text).Nodup := by
  obtain ⟨ts, _, hout⟩ := order_eq_ok_iff.mp h
  have hnames : (out.map Table.name).Nodup := (declarationOrder_of_orderTables hout).names_nodup
  have htexts : (out.map fun t => t.name.text) = (out.map Table.name).map QualifiedName.text := by
    rw [List.map_map]
    rfl
  rw [htexts]
  refine hnames.map_on ?_
  intro m hm n hn htext
  obtain ⟨t, ht, rfl⟩ := List.mem_map.mp hm
  obtain ⟨u, hu, rfl⟩ := List.mem_map.mp hn
  obtain ⟨_, _, ht_name⟩ := exists_tableName_of_order h ht
  obtain ⟨_, _, hu_name⟩ := exists_tableName_of_order h hu
  exact (Record.text_eq_iff ht_name hu_name).mp htext

theorem order_of_same_name (hbuilds : k.Builds ids) (ha : a ∈ ids) (hb : b ∈ ids) (hne : a ≠ b)
    (hname : k.tableName a = k.tableName b) :
    ∃ n first second, k.order ids = .error (.duplicateTable n first second) := by
  have hbuilds_once : k.Builds ids.eraseDups := by
    intro id hid
    exact hbuilds id (List.mem_eraseDups.mp hid)
  obtain ⟨ts, hts⟩ := builds_iff.mp hbuilds_once
  have hclash : ¬ (ids.eraseDups.map k.tableName).Nodup := by
    intro hnames
    exact hne (List.inj_on_of_nodup_map hnames (List.mem_eraseDups.mpr ha)
      (List.mem_eraseDups.mpr hb) hname)
  obtain ⟨_, _, _, _, n, _, _, _, _, _, _, hfails⟩ := orderTables_of_clash hts hclash
  exact ⟨n, _, _, (order_eq_orderTables hts).trans hfails⟩

/-- Resolved names have the same text only if they are the same, whatever records and configurations
they come from, and none of them has the empty namespace.  So tables that are ordered together have
different texts, and two of the listed records whose tables have one text are refused, if all listed
records have tables. -/
theorem texts_tell_names :
    (∀ (r s : Record RecordId) (c d : Config) (p q : QualifiedName),
      r.qualifiedName c = .ok p → s.qualifiedName d = .ok q → (p.text = q.text ↔ p = q)) ∧
    (∀ (r : Record RecordId) (c : Config) (q : QualifiedName),
      r.qualifiedName c = .ok q → q.space ≠ some "") ∧
    (∀ (k : Compiler) (ids : List RecordId) (out : List Table),
      k.order ids = .ok out → (out.map fun t => t.name.text).Nodup) ∧
    ∀ (k : Compiler) (ids : List RecordId), k.Builds ids →
      ∀ a ∈ ids, ∀ b ∈ ids, a ≠ b → ∀ p q : QualifiedName,
        k.tableName a = .ok p → k.tableName b = .ok q → p.text = q.text →
        ∃ n first second, k.order ids = .error (.duplicateTable n first second) ∧
          k.declareSchema ids = .error (.duplicateTable n first second) := by
  refine ⟨?_, ?_, ?_, ?_⟩
  · intro r s c d p q hp hq
    exact Record.text_eq_iff hp hq
  · intro r c q hq
    exact Record.space_ne_empty hq
  · intro k ids out h
    exact texts_nodup_of_order h
  · intro k ids hbuilds a ha b hb hne p q hp hq htext
    have hname : k.tableName a = k.tableName b := by
      rw [hp, hq, (Record.text_eq_iff hp hq).mp htext]
    obtain ⟨n, first, second, h⟩ := order_of_same_name hbuilds ha hb hne hname
    exact ⟨n, first, second, h, declareSchema_eq_error_iff.mpr h⟩

/-- Where records have a default namespace, one of them takes the name that another one has by its
marker and its identifier.  Without the default the names differ and the records are accepted. -/
theorem texts_tell_names_audit :
    let audit : Record RecordId := { ident := "Audit", marker := some "mkt.eu" }
    let entry : Record RecordId := { ident := "Entry", tableName := some "audit" }
    let catalog : Catalog := fun id => if id = 0 then audit else entry
    let k : Compiler := { catalog := catalog, config := { defaultNamespace := some "mkt.eu" } }
    let plain : Compiler := { catalog := catalog }
    let p : QualifiedName := ⟨some "mkt.eu", "audit"⟩
    let q : QualifiedName := ⟨none, "audit"⟩
    (audit.qualifiedName k.config = .ok p ∧ entry.qualifiedName {} = .ok q ∧
      (p.text = q.text ↔ p = q) ∧ p.space ≠ some "") ∧
      (plain.order [0, 1, 0] =
          .ok [{ record := "Entry", name := q }, { record := "Audit", name := p }] ∧
        [q.text, p.text].Nodup) ∧
      k.Builds [1, 0] ∧ k.tableName 0 = .ok p ∧ k.tableName 1 = .ok p ∧
      ∃ n first second, k.order [1, 0] = .error (.duplicateTable n first second) := by
  intro audit entry catalog k plain p q
  have haudit : audit.qualifiedName k.config = .ok p := by decide +kernel
  have hentry : entry.qualifiedName {} = .ok q := by decide +kernel
  have horder : plain.order [0, 1, 0] =
      .ok [{ record := "Entry", name := q }, { record := "Audit", name := p }] := by cbv
  have hbuilds : k.Builds [1, 0] := by
    intro id hid
    simp only [List.mem_cons, List.not_mem_nil, or_false] at hid
    rcases hid with rfl | rfl
    · exact ⟨{ record := "Entry", name := p }, by decide +kernel⟩
    · exact ⟨{ record := "Audit", name := p }, by decide +kernel⟩
  have hfirst : k.tableName 0 = .ok p := haudit
  have hsecond : k.tableName 1 = .ok p := by decide +kernel
  obtain ⟨htexts, hspaces, hnodup, hclash⟩ := texts_tell_names
  obtain ⟨n, first, second, hfails, _⟩ :=
    hclash k [1, 0] hbuilds 0 (by decide) 1 (by decide) (by decide) p p hfirst hsecond rfl
  exact ⟨⟨haudit, hentry, htexts _ _ _ _ _ _ haudit hentry, hspaces _ _ _ haudit⟩,
    ⟨horder, hnodup _ _ _ horder⟩, hbuilds, hfirst, hsecond, n, first, second, hfails⟩

/-- Names that were not resolved may share a text. -/
example : (⟨some "a", "b.c"⟩ : QualifiedName).text = (⟨some "a.b", "c"⟩ : QualifiedName).text := by
  decide

end Compiler

end KdbSchema

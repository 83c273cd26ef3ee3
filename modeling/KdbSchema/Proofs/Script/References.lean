import KdbSchema.Proofs.Reference.DeclarationOrder
import KdbSchema.Proofs.Script.Lines

/-!
# References in a script

A line refers to a name by a backtick, the name and `$()`.  Backticks also start attributes and
types, but a dot follows none of these, so the references that can be read off a line are those of
the table that it declares.
-/

namespace KdbSchema

/-! ## Backticks of a text -/

/-- Every backtick is followed by a character, and by the text of one of the names `qs` and `$()`
if that character is a dot. -/
def RefersWithinNames (qs : List QualifiedName) (cs : List Char) : Prop :=
  ∀ rest, '`' :: rest <:+ cs →
    ∃ c, rest.head? = some c ∧ (c = '.' → ∃ q ∈ qs, q.text.toList ++ ['$', '(', ')'] <+: rest)

section

variable {qs : List QualifiedName} {cs : List Char}

theorem refersWithinNames_of_not_mem (hcs : '`' ∉ cs) : RefersWithinNames qs cs := by
  intro rest hrest
  exact absurd (hrest.mem List.mem_cons_self) hcs

theorem appendClosed_refersWithinNames (qs : List QualifiedName) :
    AppendClosed (RefersWithinNames qs) where
  nil := refersWithinNames_of_not_mem List.not_mem_nil
  append l m hl hm := by
    intro rest hrest
    rcases cons_suffix_append hrest with ⟨r, hr, rfl⟩ | hrest
    · obtain ⟨c, hhead, hdot⟩ := hl r hr
      refine ⟨c, by simp [hhead], fun hc => ?_⟩
      obtain ⟨q, hq, hprefix⟩ := hdot hc
      exact ⟨q, hq, hprefix.trans (List.prefix_append r m)⟩
    · exact hm rest hrest

/-- A backtick before a character that is neither a backtick nor a dot. -/
theorem refersWithinNames_quoted {c : Char} (hc : c ≠ '.') (hcs : '`' ∉ c :: cs) :
    RefersWithinNames qs ('`' :: c :: cs) := by
  intro rest hrest
  rcases List.suffix_cons_iff.mp hrest with heq | hrest
  · obtain ⟨_, rfl⟩ := List.cons_eq_cons.mp heq
    exact ⟨c, rfl, fun hdot => absurd hdot hc⟩
  · exact absurd (hrest.mem List.mem_cons_self) hcs

theorem refersWithinNames_reference {q : QualifiedName} (hq : q ∈ qs) (hform : q.WellFormed) :
    RefersWithinNames qs (ColumnType.reference q).emptyList.toList := by
  have htext : '`' ∉ q.text.toList := hform.not_mem_text (by decide) (by decide)
  have hlist : (ColumnType.reference q).emptyList.toList =
      '`' :: (q.text.toList ++ ['$', '(', ')']) := by
    simp [ColumnType.emptyList]
  rw [hlist]
  intro rest hrest
  rcases List.suffix_cons_iff.mp hrest with heq | hrest
  · obtain ⟨_, rfl⟩ := List.cons_eq_cons.mp heq
    refine ⟨'.', ?_, fun _ => ⟨q, hq, List.prefix_rfl⟩⟩
    simp [List.head?_append, q.head?_text]
  · have hmem := hrest.mem List.mem_cons_self
    simp [htext] at hmem

theorem refersWithinNames_atomic (tag : Tag) :
    RefersWithinNames qs (ColumnType.atomic tag).emptyList.toList := by
  unfold ColumnType.emptyList
  cases tag
  case string => exact refersWithinNames_of_not_mem (by decide)
  all_goals exact refersWithinNames_quoted (by decide) (by decide)

theorem Placement.isAlpha_of_letter {p : Placement} {letter : Char}
    (h : p.letter? = some letter) : letter.isAlpha = true := by
  cases p <;> cases h <;> rfl

theorem refersWithinNames_attributeText (uniqueAttribute : Bool) (c : Column) :
    RefersWithinNames qs (c.attributeText uniqueAttribute).toList := by
  unfold Column.attributeText
  cases hplacement : c.placement.letter? with
  | none =>
      cases c.isUnique && uniqueAttribute
      · exact refersWithinNames_of_not_mem (by decide)
      · exact refersWithinNames_quoted (by decide) (by decide)
  | some letter =>
      have hletter : letter.isAlpha = true := Placement.isAlpha_of_letter hplacement
      have hdot : letter ≠ '.' := by
        rintro rfl
        contradiction
      have hbacktick : letter ≠ '`' := by
        rintro rfl
        contradiction
      have hlist : ("`" ++ letter.toString ++ "#").toList = ['`', letter, '#'] := by simp
      simp only [hlist]
      exact refersWithinNames_quoted hdot (by simp [hbacktick.symm])

end

theorem Table.WellFormed.refersWithinNames {t : Table} (ht : t.WellFormed)
    (uniqueAttribute : Bool) :
    RefersWithinNames t.references (t.declaration uniqueAttribute).toList := by
  have hclosed := appendClosed_refersWithinNames t.references
  have hname : '`' ∉ t.name.text.toList := ht.name.not_mem_text (by decide) (by decide)
  have hjoints : ∀ l ∈ joints, RefersWithinNames t.references l := by
    have hfree : ∀ l ∈ joints, '`' ∉ l := by decide
    intro l hl
    exact refersWithinNames_of_not_mem (hfree l hl)
  apply hclosed.table hjoints (refersWithinNames_of_not_mem hname)
  intro c hc
  have hcolumn : '`' ∉ c.name.toList := (ht.column c hc).not_mem (by decide)
  have htype : RefersWithinNames t.references c.type.emptyList.toList := by
    cases htag : c.type with
    | atomic tag => exact refersWithinNames_atomic tag
    | reference q =>
        have hq : q ∈ t.references := mem_references_iff.mpr ⟨c, hc, htag⟩
        exact refersWithinNames_reference hq (ht.reference c hc q htag)
  exact hclosed.column hjoints (refersWithinNames_attributeText uniqueAttribute c)
    (refersWithinNames_of_not_mem hcolumn) htype

/-! ## The names that a line refers to -/

/-- The name `n`, which starts with a dot, stands between a backtick and `$()` in the line. -/
def Mentions (line n : String) : Prop :=
  n.toList.head? = some '.' ∧ ∃ before after, line = before ++ "`" ++ n ++ "$()" ++ after

/-- The name `n` is mentioned and ends at the first `$()` that follows the backtick. -/
def RefersTo (line n : String) : Prop :=
  Mentions line n ∧ ¬ "$()".toList <:+: n.toList

theorem Mentions.suffix {line n : String} (h : Mentions line n) :
    ∃ after, '`' :: (n.toList ++ ['$', '(', ')'] ++ after) <:+ line.toList := by
  obtain ⟨_, before, after, rfl⟩ := h
  exact ⟨after.toList, before.toList, by simp⟩

/-- A line refers only to names that its table refers to. -/
theorem exists_reference_of_refersTo {t : Table} (ht : t.WellFormed) {uniqueAttribute : Bool}
    {n : String} (h : RefersTo (t.declaration uniqueAttribute) n) :
    ∃ q ∈ t.references, q.text = n := by
  obtain ⟨hmentions, hend⟩ := h
  obtain ⟨after, hafter⟩ := hmentions.suffix
  obtain ⟨c, hhead, hdot⟩ := ht.refersWithinNames uniqueAttribute _ hafter
  have hc : c = '.' := by
    simp only [List.append_assoc, List.head?_append, hmentions.1] at hhead
    simpa using hhead.symm
  obtain ⟨q, hq, rest, hrest⟩ := hdot hc
  have htext : '$' ∉ q.text.toList :=
    (ht.of_mem_references hq).not_mem_text (by decide) (by decide)
  refine ⟨q, hq, String.toList_inj.mp ?_⟩
  exact eq_of_append_separator (by decide) htext hend hrest

theorem refersTo_of_mentions {line : String} {q : QualifiedName} (hq : q.WellFormed)
    (h : Mentions line q.text) : RefersTo line q.text := by
  refine ⟨h, fun hinfix => ?_⟩
  have hdollar : '$' ∈ q.text.toList := hinfix.mem (by decide)
  exact hq.not_mem_text (by decide) (by decide) hdollar

/-! ## Declared before use -/

/-- Exactly one of the lines declares `n`, and it stands before line `i`. -/
def DeclaredBefore (ls : List String) (n : String) (i : Nat) : Prop :=
  ∃ j < i, ∀ m : Nat, (∃ line, ls[m]? = some line ∧ Declares line n) ↔ m = j

theorem DeclarationOrder.declaredBefore {ts out : List Table} (horder : DeclarationOrder ts out)
    (hout : ∀ t ∈ out, t.WellFormed) (uniqueAttribute : Bool) {i : Nat} {t u : Table}
    (hi : out[i]? = some t) (hu : u ∈ out) (href : u.name ∈ t.references) :
    DeclaredBefore (out.map (Table.declaration uniqueAttribute)) u.name.text i := by
  obtain ⟨j, hj⟩ := List.mem_iff_getElem?.mp hu
  refine ⟨j, horder.references_first i j t u hi hj href, ?_⟩
  intro m
  constructor
  · rintro ⟨line, hline, hdeclares⟩
    rw [List.getElem?_map, Option.map_eq_some_iff] at hline
    obtain ⟨v, hv, rfl⟩ := hline
    have hvout : v ∈ out := List.mem_of_getElem? hv
    have htext : u.name.text = v.name.text :=
      (declares_declaration_iff (hout v hvout)).mp hdeclares
    have hname : u.name = v.name :=
      QualifiedName.text_injective (hout u hu).name (hout v hvout).name htext
    have hmap : (out.map Table.name)[m]? = (out.map Table.name)[j]? := by
      rw [List.getElem?_map, List.getElem?_map, hv, hj, Option.map_some, Option.map_some, hname]
    have hlt : m < (out.map Table.name).length := by
      rw [List.length_map]
      exact (List.getElem?_eq_some_iff.mp hv).1
    exact (List.getElem?_inj hlt horder.names_nodup).mp hmap
  · rintro rfl
    refine ⟨u.declaration uniqueAttribute, by simp [hj], ?_⟩
    exact (declares_declaration_iff (hout u hu)).mpr rfl

end KdbSchema

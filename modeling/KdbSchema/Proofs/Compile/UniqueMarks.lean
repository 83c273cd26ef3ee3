import KdbSchema.Proofs.Compile.Dependence
import KdbSchema.Proofs.Compile.LineByLine

/-!
# Unique marks in a script

The mark of a unique column is a backtick, the letter `u` and a hash.  In the declaration of a
built table a backtick starts an attribute or a type, and `u` follows it only in that mark: a tag
starts with another letter and the name of a table with a dot.  So a script with unique marks turns
into the script without them where the mark is taken out wherever it occurs.  Whether marks are
wanted is asked for nowhere else: the tables, their order and every failure stay what they are.
-/

namespace KdbSchema

/-! ## Taking out marks -/

def uniqueMark : List Char := ['`', 'u', '#']

def dropUniqueMarks : List Char → List Char
  | [] => []
  | '`' :: 'u' :: '#' :: cs => dropUniqueMarks cs
  | c :: cs => c :: dropUniqueMarks cs

theorem dropUniqueMarks_cons {c : Char} {cs : List Char} (h : ¬ uniqueMark <+: c :: cs) :
    dropUniqueMarks (c :: cs) = c :: dropUniqueMarks cs := by
  rw [dropUniqueMarks]
  rintro rest rfl rfl
  exact h (List.prefix_append uniqueMark rest)

theorem dropUniqueMarks_sublist (l : List Char) : (dropUniqueMarks l).Sublist l := by
  fun_induction dropUniqueMarks l with
  | case1 => exact .slnil
  | case2 cs ih => exact ((ih.cons '#').cons 'u').cons '`'
  | case3 c cs _ ih => exact ih.cons_cons c

/-- A mark is taken out wherever it stands. -/
theorem dropUniqueMarks_append_uniqueMark (l m : List Char) :
    dropUniqueMarks (l ++ uniqueMark ++ m) = dropUniqueMarks l ++ dropUniqueMarks m := by
  fun_induction dropUniqueMarks l with
  | case1 => rfl
  | case2 cs ih => exact ih
  | case3 c cs hmark ih =>
      -- The mark that follows cannot be taken for the rest of one that starts at `c`.
      have hfree : ¬ uniqueMark <+: c :: (cs ++ uniqueMark ++ m) := by
        rintro ⟨rest, hrest⟩
        match cs with
        | [] => simp [uniqueMark] at hrest
        | [d] => simp [uniqueMark] at hrest
        | d :: e :: cs =>
            simp only [uniqueMark, List.cons_append, List.nil_append, List.cons.injEq] at hrest
            obtain ⟨rfl, rfl, rfl, _⟩ := hrest
            exact hmark cs rfl rfl
      rw [List.cons_append, List.cons_append, dropUniqueMarks_cons hfree, ih, List.cons_append]

theorem dropUniqueMarks_eq_self_iff {l : List Char} :
    dropUniqueMarks l = l ↔ ¬ uniqueMark <:+: l := by
  constructor
  · rintro hself ⟨before, after, rfl⟩
    rw [dropUniqueMarks_append_uniqueMark] at hself
    have hbefore := (dropUniqueMarks_sublist before).length_le
    have hafter := (dropUniqueMarks_sublist after).length_le
    have hlength := congrArg List.length hself
    simp only [List.length_append, uniqueMark, List.length_cons] at hlength
    omega
  · intro hfree
    induction l with
    | nil => rfl
    | cons c cs ih =>
        have hhead : ¬ uniqueMark <+: c :: cs := fun h => hfree h.isInfix
        have htail : ¬ uniqueMark <:+: cs := fun h => hfree (List.infix_cons h)
        rw [dropUniqueMarks_cons hhead, ih htail]

/-! ## Texts that differ in their marks -/

/-- Without its unique marks the first text is the second one, whatever follows it. -/
def Unmarks (l m : List Char) : Prop :=
  ∀ rest, dropUniqueMarks (l ++ rest) = m ++ dropUniqueMarks rest

theorem appendRelated_unmarks : AppendRelated Unmarks where
  nil _ := rfl
  append l m l' m' hl hm := by
    intro rest
    rw [List.append_assoc, hl, hm, List.append_assoc]

theorem unmarks_uniqueMark : Unmarks uniqueMark [] :=
  fun _ => rfl

theorem unmarks_of_not_mem {l : List Char} (h : '`' ∉ l) : Unmarks l l := by
  intro rest
  induction l with
  | nil => rfl
  | cons c l ih =>
      simp only [List.mem_cons, not_or] at h
      have hfree : ¬ uniqueMark <+: c :: (l ++ rest) := by
        simp [uniqueMark, List.cons_prefix_cons, h.1]
      rw [List.cons_append, dropUniqueMarks_cons hfree, ih h.2, List.cons_append]

/-- A backtick before a character that is neither a backtick nor the letter of the mark. -/
theorem unmarks_quoted {c : Char} {cs : List Char} (hc : c ≠ 'u') (hcs : '`' ∉ c :: cs) :
    Unmarks ('`' :: c :: cs) ('`' :: c :: cs) := by
  intro rest
  have hfree : ¬ uniqueMark <+: '`' :: c :: (cs ++ rest) := by
    simp [uniqueMark, List.cons_prefix_cons, hc.symm]
  have htail := unmarks_of_not_mem hcs rest
  simp only [List.cons_append] at htail ⊢
  rw [dropUniqueMarks_cons hfree, htail]

theorem unmarks_emptyList {type : ColumnType} (href : ∀ q, type = .reference q → q.WellFormed) :
    Unmarks type.emptyList.toList type.emptyList.toList := by
  cases type with
  | atomic tag =>
      cases tag
      case string => exact unmarks_of_not_mem (by decide)
      all_goals exact unmarks_quoted (by decide) (by decide)
  | reference q =>
      have htext : '`' ∉ q.text.toList := (href q rfl).not_mem_text (by decide) (by decide)
      have hlist : (ColumnType.reference q).emptyList.toList =
          '`' :: (q.text.toList ++ ['$', '(', ')']) := by
        simp [ColumnType.emptyList]
      have hdot := q.head?_text
      rw [hlist]
      cases hq : q.text.toList with
      | nil => simp [hq] at hdot
      | cons c cs =>
          obtain rfl : c = '.' := by simpa [hq] using hdot
          rw [hq] at htext
          exact unmarks_quoted (by decide) (by simpa using htext)

theorem unmarks_attributeText (uniqueAttribute : Bool) (c : Column) :
    Unmarks (c.attributeText uniqueAttribute).toList (c.attributeText false).toList := by
  unfold Column.attributeText
  cases hplacement : c.placement.letter? with
  | none =>
      cases c.isUnique && uniqueAttribute with
      | false => simpa using unmarks_of_not_mem List.not_mem_nil
      | true => simpa [uniqueMark] using unmarks_uniqueMark
  | some letter =>
      have hletter : letter ≠ 'u' ∧ letter ≠ '`' := by
        cases hp : c.placement <;> simp [hp, Placement.letter?] at hplacement <;>
          subst hplacement <;> decide
      have hlist : ("`" ++ letter.toString ++ "#").toList = ['`', letter, '#'] := by simp
      simp only [hlist]
      exact unmarks_quoted hletter.1 (by simp [hletter.2.symm])

/-! ## Tables and scripts -/

theorem Table.WellFormed.unmarks_declaration {t : Table} (ht : t.WellFormed)
    (uniqueAttribute : Bool) :
    Unmarks (t.declaration uniqueAttribute).toList (t.declaration false).toList := by
  have hname : '`' ∉ t.name.text.toList := ht.name.not_mem_text (by decide) (by decide)
  have hjoints : ∀ l ∈ joints, Unmarks l l := by
    have hfree : ∀ l ∈ joints, '`' ∉ l := by decide
    intro l hl
    exact unmarks_of_not_mem (hfree l hl)
  apply appendRelated_unmarks.table hjoints (unmarks_of_not_mem hname)
  intro c hc
  have hcolumn : '`' ∉ c.name.toList := (ht.column c hc).not_mem (by decide)
  exact appendRelated_unmarks.column hjoints (unmarks_attributeText uniqueAttribute c)
    (unmarks_of_not_mem hcolumn) (unmarks_emptyList (ht.reference c hc))

theorem unmarks_script {ts : List Table} (hts : ∀ t ∈ ts, t.WellFormed) (uniqueAttribute : Bool) :
    Unmarks (script uniqueAttribute ts).toList (script false ts).toList := by
  induction ts with
  | nil => exact unmarks_of_not_mem (by simp [script])
  | cons t ts ih =>
      obtain ⟨ht, hts⟩ := List.forall_mem_cons.mp hts
      have hbreak : Unmarks "\n".toList "\n".toList := unmarks_of_not_mem (by decide)
      rw [script_cons, script_cons]
      simp only [String.toList_append]
      apply appendRelated_unmarks.append _ _ _ _ _ (ih hts)
      exact appendRelated_unmarks.append _ _ _ _ (ht.unmarks_declaration uniqueAttribute) hbreak

theorem dropUniqueMarks_script {ts : List Table} (hts : ∀ t ∈ ts, t.WellFormed)
    (uniqueAttribute : Bool) :
    dropUniqueMarks (script uniqueAttribute ts).toList = (script false ts).toList := by
  have hscript := unmarks_script hts uniqueAttribute []
  simpa [dropUniqueMarks] using hscript

namespace Compiler

/-! ## The setting -/

def withMarks (k : Compiler) (wanted : Bool) : Compiler :=
  { k with config := { k.config with uniqueAttribute := wanted } }

variable {k : Compiler} {ids : List RecordId}

theorem table_withMarks (k : Compiler) (wanted : Bool) (id : RecordId) :
    (k.withMarks wanted).table id = k.table id :=
  table_congr rfl rfl rfl rfl fun _ _ _ _ => rfl

theorem order_withMarks (k : Compiler) (wanted : Bool) (ids : List RecordId) :
    (k.withMarks wanted).order ids = k.order ids :=
  order_congr fun id _ => table_withMarks k wanted id

theorem wellFormed_of_order {out : List Table} (h : k.order ids = .ok out) :
    ∀ t ∈ out, t.WellFormed := by
  obtain ⟨us, _, hus⟩ := exists_arrangement h
  intro t ht
  obtain ⟨id, _, htable⟩ := exists_left_of_forall₂ hus ht
  exact Record.table_wellFormed htable

/-- Whether unique marks are wanted changes no table, no order and no failure.  Where a script is
written with marks, the script without them is what is left when the mark is taken out of it at
every place where it occurs, and then it occurs no more. -/
theorem unique_attribute_only_marks (k : Compiler) (ids : List RecordId) :
    (k.withMarks true).order ids = (k.withMarks false).order ids ∧
    (∀ e, (k.withMarks true).declareSchema ids = .error e ↔
      (k.withMarks false).declareSchema ids = .error e) ∧
    ∀ text text', (k.withMarks true).declareSchema ids = .ok text →
      (k.withMarks false).declareSchema ids = .ok text' →
        text'.toList = dropUniqueMarks text.toList ∧ ¬ uniqueMark <:+: text'.toList := by
  have horder : (k.withMarks true).order ids = (k.withMarks false).order ids := by
    rw [order_withMarks, order_withMarks]
  refine ⟨horder, ?_, ?_⟩
  · intro e
    rw [declareSchema_eq_error_iff, declareSchema_eq_error_iff, horder]
  · intro text text' htext htext'
    obtain ⟨out, hout, rfl⟩ := declareSchema_eq_ok_iff.mp htext
    obtain ⟨out', hout', rfl⟩ := declareSchema_eq_ok_iff.mp htext'
    obtain rfl : out = out' := by
      rw [horder, hout'] at hout
      exact (Except.ok.inj hout).symm
    have hts := wellFormed_of_order hout
    exact ⟨(dropUniqueMarks_script hts true).symm,
      dropUniqueMarks_eq_self_iff.mp (dropUniqueMarks_script hts false)⟩

/-- A unique key, a sorted column called `u` and a reference to a table in the namespace `u`: only
the first of them carries a unique mark. -/
theorem unique_attribute_only_marks_quote :
    let quote : Record RecordId :=
      { ident := "Quote"
        fields := [{ ident := "Id", type := .primitive .int64, modifiers := [.unique, .key] },
          { ident := "U", type := .primitive .timestamp, modifiers := [.sorted] },
          { ident := "Unit", type := .primitive .text, modifiers := [.foreignKey 1] }] }
    let unit : Record RecordId := { ident := "Unit", marker := some "u" }
    let k : Compiler := { catalog := fun id => if id = 0 then quote else unit }
    let text := ".quote:([`u#id:`long$()]`s#u:`datetime$();unit:`.u.unit$())\n"
    let text' := ".quote:([id:`long$()]`s#u:`datetime$();unit:`.u.unit$())\n"
    (k.withMarks true).declareSchema [0] = .ok text ∧
      (k.withMarks false).declareSchema [0] = .ok text' ∧
      text'.toList = dropUniqueMarks text.toList ∧ ¬ uniqueMark <:+: text'.toList := by
  intro quote unit k text text'
  let t : Table :=
    { record := "Quote", name := ⟨none, "quote"⟩
      keys := [{ name := "id", type := .atomic .long, role := .key, isUnique := true }]
      values := [{ name := "u", type := .atomic .datetime, placement := .sorted },
        { name := "unit", type := .reference ⟨some "u", "unit"⟩, role := .foreignKey }] }
  have htable : k.table 0 = .ok t := by decide +kernel
  have horder : ∀ wanted, (k.withMarks wanted).order [0] = .ok [t] := by
    intro wanted
    rw [order_withMarks]
    exact order_singleton htable (by decide)
  have htext : (k.withMarks true).declareSchema [0] = .ok text :=
    declareSchema_eq_ok_iff.mpr ⟨_, horder true, by decide +kernel⟩
  have htext' : (k.withMarks false).declareSchema [0] = .ok text' :=
    declareSchema_eq_ok_iff.mpr ⟨_, horder false, by decide +kernel⟩
  exact ⟨htext, htext', (unique_attribute_only_marks k [0]).2.2 _ _ htext htext'⟩

end Compiler

end KdbSchema

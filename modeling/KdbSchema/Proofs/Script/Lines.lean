import KdbSchema.Table.Declaration
import KdbSchema.Proofs.Table.Build

/-!
# The lines of a script

No declaration of a built table holds a line break, so the lines of a script are the declarations of
its tables.  Each of them declares one name: the text before its first colon is that of the table.
-/

namespace KdbSchema

/-! ## Lines of a text -/

/-- Cuts characters at line breaks; a line break at the end begins no further line. -/
def cutLines : List Char → List (List Char)
  | [] => []
  | c :: cs =>
    if c = '\n' then [] :: cutLines cs
    else match cutLines cs with
      | [] => [[c]]
      | l :: ls => (c :: l) :: ls

def lines (text : String) : List String := (cutLines text.toList).map String.ofList

theorem cutLines_append_newline {l : List Char} (hl : '\n' ∉ l) (rest : List Char) :
    cutLines (l ++ '\n' :: rest) = l :: cutLines rest := by
  induction l with
  | nil => simp [cutLines]
  | cons c l ih =>
      simp only [List.mem_cons, not_or] at hl
      rw [List.cons_append, cutLines, if_neg (Ne.symm hl.1), ih hl.2]

theorem script_cons (uniqueAttribute : Bool) (t : Table) (ts : List Table) :
    script uniqueAttribute (t :: ts) =
      t.declaration uniqueAttribute ++ "\n" ++ script uniqueAttribute ts := by
  simp [script, String.join_cons]

theorem lines_script {uniqueAttribute : Bool} {ts : List Table}
    (hts : ∀ t ∈ ts, '\n' ∉ (t.declaration uniqueAttribute).toList) :
    lines (script uniqueAttribute ts) = ts.map (Table.declaration uniqueAttribute) := by
  induction ts with
  | nil => simp [lines, script, cutLines]
  | cons t ts ih =>
      obtain ⟨ht, hts'⟩ := List.forall_mem_cons.mp hts
      have hcut : cutLines (script uniqueAttribute (t :: ts)).toList =
          (t.declaration uniqueAttribute).toList ::
            cutLines (script uniqueAttribute ts).toList := by
        rw [script_cons, String.toList_append, String.toList_append, List.append_assoc]
        exact cutLines_append_newline ht _
      have htail := ih hts'
      unfold lines at htail ⊢
      rw [hcut, List.map_cons, List.map_cons, htail, String.ofList_toList]

/-! ## The parts of a declaration -/

/-- A relation that texts put together inherit from their parts. -/
structure AppendRelated (R : List Char → List Char → Prop) : Prop where
  nil : R [] []
  append : ∀ l m l' m', R l l' → R m m' → R (l ++ m) (l' ++ m')

/-- A property that texts put together inherit from their parts. -/
structure AppendClosed (P : List Char → Prop) : Prop where
  nil : P []
  append : ∀ l m, P l → P m → P (l ++ m)

def joints : List (List Char) := [[':', '(', '['], [':'], [';'], [']'], [')']]

theorem columnsDeclaration_cons_cons (uniqueAttribute : Bool) (c d : Column) (cs : List Column) :
    columnsDeclaration uniqueAttribute (c :: d :: cs) =
      c.declaration uniqueAttribute ++ ";" ++ columnsDeclaration uniqueAttribute (d :: cs) := by
  unfold columnsDeclaration
  rw [List.map_cons, List.map_cons, String.intercalate_cons_cons]

namespace AppendRelated

variable {R : List Char → List Char → Prop} {u v : Bool}

theorem column (hR : AppendRelated R) (hjoints : ∀ l ∈ joints, R l l) {c : Column}
    (hattribute : R (c.attributeText u).toList (c.attributeText v).toList)
    (hname : R c.name.toList c.name.toList)
    (htype : R c.type.emptyList.toList c.type.emptyList.toList) :
    R (c.declaration u).toList (c.declaration v).toList := by
  have hcolon : R [':'] [':'] := hjoints _ (by decide)
  unfold Column.declaration
  simp only [String.toList_append]
  apply hR.append _ _ _ _ _ htype
  apply hR.append _ _ _ _ _ hcolon
  exact hR.append _ _ _ _ hattribute hname

theorem columns (hR : AppendRelated R) (hjoints : ∀ l ∈ joints, R l l) {cs : List Column}
    (hcs : ∀ c ∈ cs, R (c.declaration u).toList (c.declaration v).toList) :
    R (columnsDeclaration u cs).toList (columnsDeclaration v cs).toList := by
  have hsemicolon : R [';'] [';'] := hjoints _ (by decide)
  induction cs with
  | nil => simpa [columnsDeclaration] using hR.nil
  | cons c cs ih =>
      obtain ⟨hc, hcs⟩ := List.forall_mem_cons.mp hcs
      cases cs with
      | nil => simpa [columnsDeclaration] using hc
      | cons d cs =>
          rw [columnsDeclaration_cons_cons, columnsDeclaration_cons_cons]
          simp only [String.toList_append]
          apply hR.append _ _ _ _ _ (ih hcs)
          exact hR.append _ _ _ _ hc hsemicolon

theorem table (hR : AppendRelated R) (hjoints : ∀ l ∈ joints, R l l) {t : Table}
    (hname : R t.name.text.toList t.name.text.toList)
    (hcs : ∀ c ∈ t.keys ++ t.values, R (c.declaration u).toList (c.declaration v).toList) :
    R (t.declaration u).toList (t.declaration v).toList := by
  have hopen : R [':', '(', '['] [':', '(', '['] := hjoints _ (by decide)
  have hbracket : R [']'] [']'] := hjoints _ (by decide)
  have hclose : R [')'] [')'] := hjoints _ (by decide)
  have hkeys := hR.columns hjoints fun c hc => hcs c (List.mem_append_left _ hc)
  have hvalues := hR.columns hjoints fun c hc => hcs c (List.mem_append_right _ hc)
  unfold Table.declaration
  simp only [String.toList_append]
  apply hR.append _ _ _ _ _ hclose
  apply hR.append _ _ _ _ _ hvalues
  apply hR.append _ _ _ _ _ hbracket
  apply hR.append _ _ _ _ _ hkeys
  exact hR.append _ _ _ _ hname hopen

end AppendRelated

namespace AppendClosed

variable {P : List Char → Prop} {uniqueAttribute : Bool}

theorem related (hP : AppendClosed P) : AppendRelated fun l _ => P l where
  nil := hP.nil
  append l m _ _ := hP.append l m

theorem column (hP : AppendClosed P) (hjoints : ∀ l ∈ joints, P l) {c : Column}
    (hattribute : P (c.attributeText uniqueAttribute).toList) (hname : P c.name.toList)
    (htype : P c.type.emptyList.toList) : P (c.declaration uniqueAttribute).toList :=
  hP.related.column (v := uniqueAttribute) hjoints hattribute hname htype

theorem table (hP : AppendClosed P) (hjoints : ∀ l ∈ joints, P l) {t : Table}
    (hname : P t.name.text.toList)
    (hcs : ∀ c ∈ t.keys ++ t.values, P (c.declaration uniqueAttribute).toList) :
    P (t.declaration uniqueAttribute).toList :=
  hP.related.table (v := uniqueAttribute) hjoints hname hcs

end AppendClosed

/-! ## Characters of a declaration -/

/-- The characters with a meaning in a declaration, and the dot of names. -/
def declarationMarks : List Char := ['.', '`', '#', ':', ';', '$', '(', ')', '[', ']']

theorem Tag.isIdentifier_token (tag : Tag) : IsIdentifier tag.token.toList := by
  apply checkForm_eq_ok_iff.mp
  cases tag <;> decide

theorem appendClosed_not_mem (x : Char) : AppendClosed fun l => x ∉ l where
  nil := List.not_mem_nil
  append l m hl hm := by simp [hl, hm]

section

variable {x : Char} (hpart : isNamePart x = false) (hmark : x ∉ declarationMarks)

include hpart hmark

theorem ColumnType.not_mem_emptyList {type : ColumnType}
    (href : ∀ q, type = .reference q → q.WellFormed) : x ∉ type.emptyList.toList := by
  simp only [declarationMarks, List.mem_cons, List.not_mem_nil, or_false, not_or] at hmark
  unfold ColumnType.emptyList
  cases type with
  | atomic tag =>
      by_cases hstring : tag.isCharList = true
      · have hword := (Tag.isIdentifier_token .string).not_mem hpart
        simp only [Tag.token, String.reduceToList] at hword
        simp_all
      · have hword := tag.isIdentifier_token.not_mem hpart
        simp_all
  | reference q =>
      have htext := (href q rfl).not_mem_text hpart hmark.1
      simp_all

theorem Column.not_mem_attributeText {c : Column} {uniqueAttribute : Bool} :
    x ∉ (c.attributeText uniqueAttribute).toList := by
  simp only [declarationMarks, List.mem_cons, List.not_mem_nil, or_false, not_or] at hmark
  have hletters : IsIdentifier ['s', 'p', 'g', 'u'] := checkForm_eq_ok_iff.mp (by decide)
  have hletter := hletters.not_mem hpart
  unfold Column.attributeText
  cases c.placement <;> cases c.isUnique <;> cases uniqueAttribute <;>
    simp_all [Placement.letter?]

/-- Only identifier characters and marks occur in the declaration of a well-formed table. -/
theorem Table.WellFormed.not_mem_declaration {t : Table} (ht : t.WellFormed)
    {uniqueAttribute : Bool} : x ∉ (t.declaration uniqueAttribute).toList := by
  have hjoints : ∀ l ∈ joints, x ∉ l := by
    have hmarks : ∀ l ∈ joints, l ⊆ declarationMarks := by decide
    intro l hl hx
    exact hmark (hmarks l hl hx)
  have hdot : x ≠ '.' := by
    rintro rfl
    exact hmark (by decide)
  have hname : x ∉ t.name.text.toList := ht.name.not_mem_text hpart hdot
  apply (appendClosed_not_mem x).table hjoints hname
  intro c hc
  have htype : x ∉ c.type.emptyList.toList :=
    ColumnType.not_mem_emptyList hpart hmark (ht.reference c hc)
  exact (appendClosed_not_mem x).column hjoints (Column.not_mem_attributeText hpart hmark)
    ((ht.column c hc).not_mem hpart) htype

end

/-! ## The name that a line declares -/

/-- The name `n` is what stands before the first colon of the line. -/
def Declares (line n : String) : Prop :=
  ':' ∉ n.toList ∧ ∃ rest, line = n ++ ":" ++ rest

theorem declares_declaration_iff {t : Table} (ht : t.WellFormed) {uniqueAttribute : Bool}
    {n : String} : Declares (t.declaration uniqueAttribute) n ↔ n = t.name.text := by
  have hname : ':' ∉ t.name.text.toList := ht.name.not_mem_text (by decide) (by decide)
  have hdeclaration : ∃ rest, t.declaration uniqueAttribute = t.name.text ++ ":" ++ rest := by
    unfold Table.declaration
    refine ⟨"([" ++ columnsDeclaration uniqueAttribute t.keys ++ "]" ++
      columnsDeclaration uniqueAttribute t.values ++ ")", ?_⟩
    apply String.toList_inj.mp
    simp
  obtain ⟨rest, hrest⟩ := hdeclaration
  constructor
  · rintro ⟨hn, rest', hline⟩
    have hlist : n.toList ++ ':' :: rest'.toList = t.name.text.toList ++ ':' :: rest.toList := by
      simpa using congrArg String.toList (hline.symm.trans hrest)
    exact String.toList_inj.mp (append_cons_inj_of_not_mem hn hname hlist).1
  · rintro rfl
    exact ⟨hname, rest, hrest⟩

/-- The lines of the script of well-formed tables are their declarations. -/
theorem lines_script_of_wellFormed {uniqueAttribute : Bool} {ts : List Table}
    (hts : ∀ t ∈ ts, t.WellFormed) :
    lines (script uniqueAttribute ts) = ts.map (Table.declaration uniqueAttribute) := by
  apply lines_script
  intro t ht
  exact (hts t ht).not_mem_declaration (by decide) (by decide)

end KdbSchema

import KdbSchema.Proofs.Script.Lines

/-!
# The grammar of declarations

A declaration is a word of the grammar

    declaration  =  qualified ":([" columns "]" columns ")"
    columns      =  [ column { ";" column } ]
    column       =  mark identifier ":" type
    mark         =  [ "`" ( "s" | "p" | "g" | "u" ) "#" ]
    type         =  "`" tag "$()"  |  "`" qualified "$()"  |  "string()"
    qualified    =  "." identifier { "." identifier }

where a tag is one of the atomic types other than strings.  The rules for columns and declarations
also keep the identifiers of the columns, and these can be told from the word: no identifier holds a
separator, so a word is cut into its parts in one way only.
-/

namespace KdbSchema

/-! ## The rules -/

inductive IsQualified : List Char → Prop
  | base {part : List Char} (hpart : IsIdentifier part) : IsQualified ('.' :: part)
  | spaced {part rest : List Char} (hpart : IsIdentifier part) (hrest : IsQualified rest) :
      IsQualified ('.' :: part ++ rest)

inductive IsType : List Char → Prop
  | vector {tag : Tag} (htag : tag ≠ .string) :
      IsType ('`' :: tag.token.toList ++ ['$', '(', ')'])
  | reference {name : List Char} (hname : IsQualified name) :
      IsType ('`' :: name ++ ['$', '(', ')'])
  | strings : IsType "string()".toList

inductive IsMark : List Char → Prop
  | none : IsMark []
  | letter {c : Char} (hc : c ∈ ['s', 'p', 'g', 'u']) : IsMark ['`', c, '#']

inductive IsColumn : String → List Char → Prop
  | mk {mark type : List Char} {name : String} (hmark : IsMark mark)
      (hname : IsIdentifier name.toList) (htype : IsType type) :
      IsColumn name (mark ++ name.toList ++ ':' :: type)

inductive IsColumns : List String → List Char → Prop
  | none : IsColumns [] []
  | last {name : String} {column : List Char} (hcolumn : IsColumn name column) :
      IsColumns [name] column
  | more {name next : String} {names : List String} {column columns : List Char}
      (hcolumn : IsColumn name column) (hcolumns : IsColumns (next :: names) columns) :
      IsColumns (name :: next :: names) (column ++ ';' :: columns)

/-- A declaration with the columns `keys` in brackets and the columns `values` after them. -/
inductive IsDeclaration : List String → List String → List Char → Prop
  | mk {keys values : List String} {name inside after : List Char} (hname : IsQualified name)
      (hinside : IsColumns keys inside) (hafter : IsColumns values after) :
      IsDeclaration keys values
        (name ++ ':' :: '(' :: '[' :: inside ++ ']' :: after ++ [')'])

/-! ## Declarations of well-formed tables follow the rules -/

theorem isQualified_flatMap {parts : List (List Char)} (hparts : ∀ part ∈ parts, IsIdentifier part)
    {rest : List Char} (hrest : IsQualified rest) :
    IsQualified (parts.flatMap ('.' :: ·) ++ rest) := by
  induction parts with
  | nil => simpa using hrest
  | cons part parts ih =>
      obtain ⟨hpart, hparts⟩ := List.forall_mem_cons.mp hparts
      rw [List.flatMap_cons, List.append_assoc]
      exact .spaced hpart (ih hparts)

theorem QualifiedName.WellFormed.isQualified {q : QualifiedName} (hq : q.WellFormed) :
    IsQualified q.text.toList := by
  have hbase : IsQualified ('.' :: q.base.toList) := .base hq.base
  rw [QualifiedName.toList_text, QualifiedName.stem]
  cases hspace : q.space with
  | none => exact hbase
  | some s =>
      have hsegments := checkNamespace_eq_ok_iff.mp (hq.space s hspace).2
      have hall := isQualified_flatMap hsegments hbase
      rw [flatMap_dotSegments] at hall
      simpa using hall

theorem ColumnType.isType_emptyList {type : ColumnType}
    (href : ∀ q, type = .reference q → q.WellFormed) : IsType type.emptyList.toList := by
  cases type with
  | reference q =>
      have htype := IsType.reference (href q rfl).isQualified
      simpa [ColumnType.emptyList] using htype
  | atomic tag =>
      by_cases hstring : tag = .string
      · subst hstring
        exact .strings
      · have htype := IsType.vector hstring
        have hlist : tag.isCharList = false := by simpa [Tag.isCharList] using hstring
        simpa [ColumnType.emptyList, hlist] using htype

theorem Column.isMark_attributeText (uniqueAttribute : Bool) (c : Column) :
    IsMark (c.attributeText uniqueAttribute).toList := by
  unfold Column.attributeText
  cases c.placement with
  | none =>
      by_cases hunique : (c.isUnique && uniqueAttribute) = true
      · simpa [Placement.letter?, hunique] using IsMark.letter (c := 'u') (by decide)
      · simpa [Placement.letter?, hunique] using IsMark.none
  | sorted => simpa [Placement.letter?] using IsMark.letter (c := 's') (by decide)
  | parted => simpa [Placement.letter?] using IsMark.letter (c := 'p') (by decide)
  | grouped => simpa [Placement.letter?] using IsMark.letter (c := 'g') (by decide)

theorem Column.toList_declaration (uniqueAttribute : Bool) (c : Column) :
    (c.declaration uniqueAttribute).toList =
      (c.attributeText uniqueAttribute).toList ++ c.name.toList ++
        ':' :: c.type.emptyList.toList := by
  simp [Column.declaration]

theorem Column.isColumn_declaration {c : Column} (hname : IsIdentifier c.name.toList)
    (href : ∀ q, c.type = .reference q → q.WellFormed) (uniqueAttribute : Bool) :
    IsColumn c.name (c.declaration uniqueAttribute).toList := by
  rw [Column.toList_declaration]
  exact .mk (c.isMark_attributeText uniqueAttribute) hname (ColumnType.isType_emptyList href)

theorem isColumns_columnsDeclaration {cs : List Column} {uniqueAttribute : Bool}
    (hcs : ∀ c ∈ cs, IsColumn c.name (c.declaration uniqueAttribute).toList) :
    IsColumns (cs.map Column.name) (columnsDeclaration uniqueAttribute cs).toList := by
  induction cs with
  | nil => exact .none
  | cons c cs ih =>
      obtain ⟨hc, hcs⟩ := List.forall_mem_cons.mp hcs
      cases cs with
      | nil => simpa [columnsDeclaration] using IsColumns.last hc
      | cons d cs =>
          have hmore := IsColumns.more hc (ih hcs)
          rw [columnsDeclaration_cons_cons]
          simpa using hmore

theorem Table.toList_declaration (uniqueAttribute : Bool) (t : Table) :
    (t.declaration uniqueAttribute).toList =
      t.name.text.toList ++ ':' :: '(' :: '[' :: (columnsDeclaration uniqueAttribute t.keys).toList
        ++ ']' :: (columnsDeclaration uniqueAttribute t.values).toList ++ [')'] := by
  simp [Table.declaration]

theorem Table.WellFormed.isColumn {t : Table} (ht : t.WellFormed) {c : Column}
    (hc : c ∈ t.keys ++ t.values) (uniqueAttribute : Bool) :
    IsColumn c.name (c.declaration uniqueAttribute).toList :=
  Column.isColumn_declaration (ht.column c hc) (ht.reference c hc) uniqueAttribute

theorem Table.WellFormed.isDeclaration {t : Table} (ht : t.WellFormed) (uniqueAttribute : Bool) :
    IsDeclaration (t.keys.map Column.name) (t.values.map Column.name)
      (t.declaration uniqueAttribute).toList := by
  rw [Table.toList_declaration]
  refine .mk ht.name.isQualified ?_ ?_
  · apply isColumns_columnsDeclaration
    exact fun c hc => ht.isColumn (List.mem_append_left _ hc) uniqueAttribute
  · apply isColumns_columnsDeclaration
    exact fun c hc => ht.isColumn (List.mem_append_right _ hc) uniqueAttribute

/-! ## Characters of the parts -/

/-- The characters with a meaning inside a column, and the dot of names. -/
def columnMarks : List Char := ['.', '`', '#', ':', '$', '(', ')']

section

variable {x : Char} (hpart : isNamePart x = false)

include hpart

theorem IsQualified.not_mem {cs : List Char} (h : IsQualified cs) (hdot : x ≠ '.') : x ∉ cs := by
  induction h with
  | base hbase =>
      have hfree := hbase.not_mem hpart
      simp [hdot, hfree]
  | spaced hfirst _ ih =>
      have hfree := hfirst.not_mem hpart
      simp [hdot, hfree, ih]

theorem IsType.not_mem {cs : List Char} (h : IsType cs) (hmarks : x ∉ columnMarks) : x ∉ cs := by
  simp only [columnMarks, List.mem_cons, List.not_mem_nil, or_false, not_or] at hmarks
  cases h with
  | @vector tag _ =>
      have hfree := tag.isIdentifier_token.not_mem hpart
      simp [hmarks, hfree]
  | reference hname =>
      have hfree := hname.not_mem hpart hmarks.1
      simp [hmarks, hfree]
  | strings =>
      have hfree := (Tag.isIdentifier_token .string).not_mem hpart
      have hlist : "string()".toList = Tag.string.token.toList ++ ['(', ')'] := by decide
      rw [hlist]
      simp only [List.mem_append, List.mem_cons, List.not_mem_nil, or_false, not_or]
      exact ⟨hfree, hmarks.2.2.2.2.2⟩

theorem IsMark.not_mem {cs : List Char} (h : IsMark cs) (hquote : x ≠ '`') (hhash : x ≠ '#') :
    x ∉ cs := by
  cases h with
  | none => exact List.not_mem_nil
  | @letter c hc =>
      have hletters : IsIdentifier ['s', 'p', 'g', 'u'] := checkForm_eq_ok_iff.mp (by decide)
      have hfree : c ≠ x := ne_of_mem_of_not_mem hc (hletters.not_mem hpart)
      simp [hquote, hhash, hfree.symm]

theorem IsColumn.not_mem {name : String} {cs : List Char} (h : IsColumn name cs)
    (hmarks : x ∉ columnMarks) : x ∉ cs := by
  cases h with
  | mk hmark hname htype =>
      have htype_free := htype.not_mem hpart hmarks
      have hname_free := hname.not_mem hpart
      simp only [columnMarks, List.mem_cons, List.not_mem_nil, or_false, not_or] at hmarks
      have hmark_free := hmark.not_mem hpart hmarks.2.1 hmarks.2.2.1
      simp [hmarks, hmark_free, hname_free, htype_free]

theorem IsColumns.not_mem {names : List String} {cs : List Char} (h : IsColumns names cs)
    (hmarks : x ∉ columnMarks) (hsemicolon : x ≠ ';') : x ∉ cs := by
  induction h with
  | none => exact List.not_mem_nil
  | last hcolumn => exact hcolumn.not_mem hpart hmarks
  | more hcolumn _ ih =>
      have hfirst := hcolumn.not_mem hpart hmarks
      simp [hfirst, hsemicolon, ih]

end

/-! ## Cutting a word into its parts -/

/-- No identifier starts with a backtick, so it can be seen whether there is a mark. -/
theorem IsMark.append_inj {mark mark' name name' : List Char} (hmark : IsMark mark)
    (hmark' : IsMark mark') (hname : IsIdentifier name) (hname' : IsIdentifier name')
    (h : mark ++ name = mark' ++ name') : mark = mark' ∧ name = name' := by
  have hfree : '`' ∉ name := hname.not_mem (by decide)
  have hfree' : '`' ∉ name' := hname'.not_mem (by decide)
  cases hmark with
  | none =>
      cases hmark' with
      | none => exact ⟨rfl, h⟩
      | letter =>
          rw [List.nil_append] at h
          simp [h] at hfree
  | letter =>
      cases hmark' with
      | none =>
          rw [List.nil_append] at h
          simp [← h] at hfree'
      | letter =>
          simp only [List.cons_append, List.nil_append, List.cons.injEq, true_and] at h
          simp [h]

theorem column_cut {mark mark' name name' type type' : List Char} (hmark : IsMark mark)
    (hmark' : IsMark mark') (hname : IsIdentifier name) (hname' : IsIdentifier name')
    (h : mark ++ name ++ ':' :: type = mark' ++ name' ++ ':' :: type') :
    mark = mark' ∧ name = name' ∧ type = type' := by
  have hcolon : isNamePart ':' = false := by decide
  have hfree : ':' ∉ mark ++ name := by
    simp [hmark.not_mem hcolon (by decide) (by decide), hname.not_mem hcolon]
  have hfree' : ':' ∉ mark' ++ name' := by
    simp [hmark'.not_mem hcolon (by decide) (by decide), hname'.not_mem hcolon]
  obtain ⟨hfront, htype⟩ := append_cons_inj_of_not_mem hfree hfree' h
  obtain ⟨hmarks, hnames⟩ := hmark.append_inj hmark' hname hname' hfront
  exact ⟨hmarks, hnames, htype⟩

theorem declaration_cut {name name' inside inside' after after' : List Char}
    (hname : ':' ∉ name) (hname' : ':' ∉ name') (hinside : ']' ∉ inside) (hinside' : ']' ∉ inside')
    (h : name ++ ':' :: '(' :: '[' :: inside ++ ']' :: after ++ [')'] =
      name' ++ ':' :: '(' :: '[' :: inside' ++ ']' :: after' ++ [')']) :
    name = name' ∧ inside = inside' ∧ after = after' := by
  simp only [List.append_assoc, List.cons_append] at h
  obtain ⟨hnames, hrest⟩ := append_cons_inj_of_not_mem hname hname' h
  simp only [List.cons.injEq, true_and] at hrest
  obtain ⟨hinsides, hafters⟩ := append_cons_inj_of_not_mem hinside hinside' hrest
  exact ⟨hnames, hinsides, List.append_cancel_right hafters⟩

theorem IsColumn.separable {name : String} {cs : List Char} (h : IsColumn name cs) :
    ';' ∉ cs ∧ cs ≠ [] := by
  refine ⟨h.not_mem (by decide) (by decide), ?_⟩
  cases h
  simp

theorem IsColumns.exists_parts {names : List String} {cs : List Char} (h : IsColumns names cs) :
    ∃ parts, cs = [';'].intercalate parts ∧ List.Forall₂ IsColumn names parts ∧
      ∀ part ∈ parts, ';' ∉ part ∧ part ≠ [] := by
  have hparts : ∃ parts, cs = [';'].intercalate parts ∧ List.Forall₂ IsColumn names parts := by
    induction h with
    | none => exact ⟨[], by simp, .nil⟩
    | @last name column hcolumn => exact ⟨[column], by simp, .cons hcolumn .nil⟩
    | @more name next names column columns hcolumn _ ih =>
        obtain ⟨parts, rfl, hparts⟩ := ih
        refine ⟨column :: parts, ?_, .cons hcolumn hparts⟩
        cases hparts with
        | cons => simp [List.intercalate_cons_cons]
  obtain ⟨parts, hcs, hall⟩ := hparts
  refine ⟨parts, hcs, hall, fun part hpart => ?_⟩
  obtain ⟨_, _, hcolumn⟩ := exists_left_of_forall₂ hall hpart
  exact hcolumn.separable

/-! ## The identifiers can be told from the word -/

theorem IsColumn.name_unique {name name' : String} {cs : List Char} (h : IsColumn name cs)
    (h' : IsColumn name' cs) : name = name' := by
  generalize hcs : cs = cs' at h'
  cases h with
  | mk hmark hname _ =>
      cases h' with
      | mk hmark' hname' _ =>
          exact String.toList_inj.mp (column_cut hmark hmark' hname hname' hcs).2.1

theorem IsColumns.names_unique {names names' : List String} {cs : List Char}
    (h : IsColumns names cs) (h' : IsColumns names' cs) : names = names' := by
  obtain ⟨parts, rfl, hparts, hseparable⟩ := h.exists_parts
  obtain ⟨parts', heq, hparts', hseparable'⟩ := h'.exists_parts
  obtain rfl := intercalate_inj hseparable hseparable' heq
  exact List.left_unique_forall₂' (fun _ _ _ h h' => h.name_unique h') hparts hparts'

theorem IsDeclaration.names_unique {keys keys' values values' : List String} {cs : List Char}
    (h : IsDeclaration keys values cs) (h' : IsDeclaration keys' values' cs) :
    keys = keys' ∧ values = values' := by
  have hcolon : isNamePart ':' = false := by decide
  have hbracket : isNamePart ']' = false := by decide
  generalize hcs : cs = cs' at h'
  cases h with
  | mk hname hinside hafter =>
      cases h' with
      | mk hname' hinside' hafter' =>
          obtain ⟨_, rfl, rfl⟩ := declaration_cut (hname.not_mem hcolon (by decide))
            (hname'.not_mem hcolon (by decide))
            (hinside.not_mem hbracket (by decide) (by decide))
            (hinside'.not_mem hbracket (by decide) (by decide)) hcs
          exact ⟨hinside.names_unique hinside', hafter.names_unique hafter'⟩

end KdbSchema

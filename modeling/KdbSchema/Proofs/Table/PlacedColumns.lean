import KdbSchema.Table.Declaration
import KdbSchema.Proofs.Table.Admission

/-!
# Columns with a placement

A placement is given to a column of its own type only: never to a reference, and never beside the
unique mark.  It is decided before the tag is known.  A text that asks to be stored as a string is a
list of character lists and no vector, and nothing refuses a placement on it; that is the one way in
which a column with a placement is not a vector.
-/

namespace KdbSchema

variable {catalog : Catalog} {config : Config} {record : String} {f : Field RecordId} {c : Column}

theorem Modifier.override?_eq_string_iff {ρ : Type} {m : Modifier ρ} :
    m.override? = some .string ↔ m = .stringOverride := by
  cases m <;> simp [Modifier.override?]

theorem Field.string_mem_overrides_iff : .string ∈ f.overrides ↔ .stringOverride ∈ f.modifiers := by
  simp [Field.overrides, Modifier.override?_eq_string_iff]

theorem Primitive.isCharList_tag_iff {p : Primitive} {o : Option Override} :
    (p.tag o).isCharList = true ↔ p = .text ∧ o = some .string := by
  cases p <;> rcases o with _ | _ | _ | _ <;>
    simp [Primitive.tag, Primitive.defaultTag, Tag.isCharList]

/-- An override that a type accepts is the string one exactly if the column becomes a list of
character lists. -/
theorem Field.isCharList_iff {p : Primitive}
    (h : f.overrides = [] ∨ ∃ o, f.overrides = [o] ∧ p.accepts o = true) :
    (p.tag f.overrides.head?).isCharList = true ↔ .stringOverride ∈ f.modifiers := by
  rw [Primitive.isCharList_tag_iff, ← Field.string_mem_overrides_iff]
  rcases h with hnone | ⟨o, ho, haccepts⟩
  · simp [hnone]
  · have htext : o = .string → p = .text := by
      rintro rfl
      cases p <;> simp [Primitive.accepts] at haccepts
      rfl
    simp only [ho, List.head?_cons, Option.some.injEq, List.mem_singleton]
    constructor
    · exact fun h => h.2.symm
    · exact fun h => ⟨htext h.symm, h.symm⟩

theorem Field.placements_ne_nil_iff (h : f.column catalog config record = .ok c) :
    f.placements ≠ [] ↔ c.placement ≠ .none := by
  obtain ⟨hplacement, _⟩ := Field.column_eq_ok_iff.mp h
  rcases Field.placement_eq_ok_iff.mp hplacement with ⟨hnil, hp⟩ | ⟨hone, _⟩
  · simp [hnil, ← hp]
  · have hmem : c.placement ∈ f.placements := by simp [hone]
    obtain ⟨m, _, hm⟩ := List.mem_filterMap.mp hmem
    have hne : c.placement ≠ .none := by
      intro heq
      rw [heq] at hm
      cases m <;> simp [Modifier.placement?] at hm
    simp [hone, hne]

/-- What is known of a column with a placement. -/
theorem Field.type_of_placed (h : f.column catalog config record = .ok c)
    (hplaced : c.placement ≠ .none) :
    c.isUnique = false ∧ ∃ tag, c.type = .atomic tag ∧
      (tag.isCharList = true ↔ .stringOverride ∈ f.modifiers) := by
  obtain ⟨hplacement, _, htype, _, _, hunique⟩ := Field.column_eq_ok_iff.mp h
  rcases Field.placement_eq_ok_iff.mp hplacement with ⟨_, hp⟩ | ⟨_, hplain, _, hnot⟩
  · exact absurd hp.symm hplaced
  · refine ⟨hunique.trans hnot, ?_⟩
    rcases Field.columnType_eq_ok_iff.mp htype with ⟨target, _, htarget, _⟩ | ⟨_, tag, htag, hc⟩
    · simp [hplain] at htarget
    · rcases Field.tag_eq_ok_iff.mp htag with ⟨p, _, hoverrides⟩
      have htagged : p.tag f.overrides.head? = tag := by
        rcases hoverrides with ⟨hnone, ht⟩ | ⟨o, ho, _, ht⟩
        · simpa [hnone] using ht
        · simpa [ho] using ht
      refine ⟨tag, hc.symm, ?_⟩
      rw [← htagged]
      apply Field.isCharList_iff
      exact hoverrides.imp And.left fun ⟨o, ho, haccepts, _⟩ => ⟨o, ho, haccepts⟩

theorem Column.declaration_of_placed {tag : Tag} (hplaced : c.placement ≠ .none)
    (htype : c.type = .atomic tag) :
    ∃ letter, c.placement.letter? = some letter ∧ ∀ uniqueAttribute,
      c.declaration uniqueAttribute = "`" ++ letter.toString ++ "#" ++ c.name ++ ":" ++
        if tag.isCharList then "string()" else "`" ++ tag.token ++ "$()" := by
  cases hletter : c.placement.letter? with
  | none =>
      cases hp : c.placement <;> simp [hp, Placement.letter?] at hletter
      exact absurd hp hplaced
  | some letter =>
      refine ⟨letter, rfl, fun uniqueAttribute => ?_⟩
      simp [Column.declaration, Column.attributeText, hletter, htype, ColumnType.emptyList]

/-- Every column with a placement is a vector exactly if no field that asks for a placement asks for
a string as well.  In any case such a column is not unique and has a tag, and where its field asks
for a string the placement is written before a list of character lists. -/
theorem Record.placed_columns (catalog : Catalog) (config : Config) (r : Record RecordId)
    (cs : List Column) (h : r.columns catalog config = .ok cs) :
    ((∀ c ∈ cs, c.placement ≠ .none → ∃ tag, c.type = .atomic tag ∧ tag.isCharList = false) ↔
      ∀ f ∈ r.fields, f.placements ≠ [] → .stringOverride ∉ f.modifiers) ∧
    List.Forall₂
      (fun f c => c.placement ≠ .none → c.isUnique = false ∧
        ∃ tag letter, c.type = .atomic tag ∧ c.placement.letter? = some letter ∧
          (tag.isCharList = true ↔ .stringOverride ∈ f.modifiers) ∧
          ∀ uniqueAttribute, c.declaration uniqueAttribute =
            "`" ++ letter.toString ++ "#" ++ c.name ++ ":" ++
              if tag.isCharList then "string()" else "`" ++ tag.token ++ "$()")
      r.fields cs := by
  obtain ⟨hall, _⟩ := Field.columns_eq_ok_iff.mp h
  constructor
  · constructor
    · intro hvectors f hf hplaced hstring
      obtain ⟨c, hc, hcolumn⟩ := exists_right_of_forall₂ hall hf
      have hplacement := (Field.placements_ne_nil_iff hcolumn).mp hplaced
      obtain ⟨tag, htype, hvector⟩ := hvectors c hc hplacement
      obtain ⟨_, tag', htype', hiff⟩ := Field.type_of_placed hcolumn hplacement
      rw [htype, ColumnType.atomic.injEq] at htype'
      rw [← htype', hvector] at hiff
      simp [hstring] at hiff
    · intro hfields c hc hplacement
      obtain ⟨f, hf, hcolumn⟩ := exists_left_of_forall₂ hall hc
      obtain ⟨_, tag, htype, hiff⟩ := Field.type_of_placed hcolumn hplacement
      have hstring := hfields f hf ((Field.placements_ne_nil_iff hcolumn).mpr hplacement)
      exact ⟨tag, htype, by simpa [hstring] using hiff⟩
  · refine hall.imp fun f c hcolumn hplacement => ?_
    obtain ⟨hunique, tag, htype, hiff⟩ := Field.type_of_placed hcolumn hplacement
    obtain ⟨letter, hletter, htext⟩ := Column.declaration_of_placed hplacement htype
    exact ⟨hunique, tag, letter, htype, hletter, hiff, htext⟩

/-- A sorted time that is stored as a date is a vector of dates; the text that is stored as a string
beside it has no placement. -/
theorem Record.placed_columns_quote :
    let quote : Record RecordId :=
      { ident := "Quote"
        fields :=
          [{ ident := "Day", type := .primitive .timestamp, modifiers := [.dateOverride, .sorted] },
           { ident := "Note", type := .primitive .text, modifiers := [.stringOverride] }] }
    let cs : List Column :=
      [{ name := "day", type := .atomic .date, placement := .sorted },
       { name := "note", type := .atomic .string }]
    quote.columns (fun _ => quote) {} = .ok cs ∧
      (∀ f ∈ quote.fields, f.placements ≠ [] → .stringOverride ∉ f.modifiers) ∧
      ∀ c ∈ cs, c.placement ≠ .none → ∃ tag, c.type = .atomic tag ∧ tag.isCharList = false := by
  intro quote cs
  have hcolumns : quote.columns (fun _ => quote) {} = .ok cs := by decide +kernel
  have hfields : ∀ f ∈ quote.fields, f.placements ≠ [] → .stringOverride ∉ f.modifiers := by decide
  have hplaced := (Record.placed_columns (fun _ => quote) {} quote cs hcolumns).1
  exact ⟨hcolumns, hfields, hplaced.mpr hfields⟩

/-- A sorted text that is stored as a string is declared with the attribute of a sorted vector,
though it is a list of character lists. -/
theorem Record.sorted_string_declared :
    let diary : Record RecordId :=
      { ident := "Diary"
        fields :=
          [{ ident := "Note", type := .primitive .text, modifiers := [.sorted, .stringOverride] }] }
    let c : Column := { name := "note", type := .atomic .string, placement := .sorted }
    diary.columns (fun _ => diary) {} = .ok [c] ∧ Tag.isCharList .string = true ∧
      c.declaration true = "`s#note:string()" ∧
      (diary.table (fun _ => diary) {}).map (Table.declaration true) =
        .ok ".diary:([]`s#note:string())" := by
  intro diary c
  exact ⟨by decide +kernel, rfl, by decide +kernel, by decide +kernel⟩

end KdbSchema

import KdbSchema.Table.Basic
import KdbSchema.Proofs.Lists
import KdbSchema.Proofs.Table.Field
import KdbSchema.Proofs.Table.Name

/-!
# Built tables

A table is built exactly when its name resolves, every field yields a column and no two columns have
one name.  Its columns are then those of the fields, each referring to the table of the first record
that its field points to.
-/

namespace KdbSchema

variable {catalog : Catalog} {config : Config} {record : String}

/-! ## One column -/

theorem Field.column_eq_ok_iff {f : Field RecordId} {c : Column} :
    f.column catalog config record = .ok c ↔
      f.placement = .ok c.placement ∧
      checkName .column config.reserved.columns c.name = .ok () ∧
      f.columnType catalog config record = .ok c.type ∧
      c.name = f.columnName ∧ c.role = f.role ∧ c.isUnique = f.isUnique := by
  unfold Field.column
  rw [Except.bind_eq_ok_iff]
  constructor
  · rintro ⟨placement, hplacement, hrest⟩
    obtain ⟨_, hname, hrest⟩ := Except.bind_eq_ok_iff.mp hrest
    obtain ⟨type, htype, hc⟩ := Except.bind_eq_ok_iff.mp hrest
    cases hc
    exact ⟨Except.mapError_eq_ok_iff.mp hplacement, Except.mapError_eq_ok_iff.mp hname, htype,
      rfl, rfl, rfl⟩
  · rintro ⟨hplacement, hname, htype, hcolumn, hrole, hunique⟩
    refine ⟨c.placement, Except.mapError_eq_ok_iff.mpr hplacement, ?_⟩
    apply Except.bind_eq_ok_iff.mpr
    refine ⟨(), Except.mapError_eq_ok_iff.mpr (hcolumn ▸ hname), ?_⟩
    apply Except.bind_eq_ok_iff.mpr
    refine ⟨c.type, htype, ?_⟩
    rw [← hcolumn, ← hrole, ← hunique]
    rfl

theorem Field.columnType_cases {f : Field RecordId} {type : ColumnType}
    (h : f.columnType catalog config record = .ok type) :
    (f.target? = none ∧ ∃ tag, type = .atomic tag) ∨
      ∃ target q, f.target? = some target ∧ (catalog target).qualifiedName config = .ok q ∧
        type = .reference q := by
  rcases Field.columnType_eq_ok_iff.mp h with
    ⟨target, q, htarget, _, hq, htype⟩ | ⟨htarget, tag, _, htype⟩
  · exact Or.inr ⟨target, q, htarget, hq, htype.symm⟩
  · exact Or.inl ⟨htarget, tag, htype.symm⟩

theorem Field.columnType_eq_reference {f : Field RecordId} {q : QualifiedName}
    (h : f.columnType catalog config record = .ok (.reference q)) :
    ∃ target, f.target? = some target ∧ (catalog target).qualifiedName config = .ok q := by
  rcases Field.columnType_cases h with ⟨_, tag, htag⟩ | ⟨target, q', htarget, hq, htype⟩
  · cases htag
  · cases htype
    exact ⟨target, htarget, hq⟩

/-- The column of a foreign key refers to the table of the record that is pointed to, under the name
that this record has by itself. -/
theorem Field.columnType_of_target {f : Field RecordId} {type : ColumnType} {target : RecordId}
    (h : f.columnType catalog config record = .ok type) (htarget : f.target? = some target) :
    ∃ q, (catalog target).qualifiedName config = .ok q ∧ type = .reference q := by
  rcases Field.columnType_cases h with ⟨hnone, _⟩ | ⟨target', q, htarget', hq, htype⟩
  · rw [htarget] at hnone
    cases hnone
  · rw [htarget] at htarget'
    cases htarget'
    exact ⟨q, hq, htype⟩

/-! ## All columns -/

theorem Field.columns_eq_ok_iff {fs : List (Field RecordId)} {cs : List Column}
    {taken : List String} :
    Field.columns catalog config record taken fs = .ok cs ↔
      List.Forall₂ (fun f c => f.column catalog config record = .ok c) fs cs ∧
      (cs.map Column.name).Nodup ∧ ∀ c ∈ cs, c.name ∉ taken := by
  induction fs generalizing cs taken with
  | nil =>
      rw [Field.columns, List.forall₂_nil_left_iff]
      constructor
      · intro h
        cases h
        simp
      · rintro ⟨rfl, _⟩
        rfl
  | cons f fs ih =>
      rw [Field.columns, Except.bind_eq_ok_iff, List.forall₂_cons_left_iff]
      constructor
      · rintro ⟨c, hc, hrest⟩
        by_cases htaken : c.name ∈ taken
        · rw [if_pos htaken] at hrest
          cases hrest
        · rw [if_neg htaken] at hrest
          obtain ⟨cs', hcs', hcons⟩ := Except.bind_eq_ok_iff.mp hrest
          cases hcons
          obtain ⟨hall, hnodup, hfresh⟩ := ih.mp hcs'
          refine ⟨⟨c, cs', hc, hall, rfl⟩, ?_, ?_⟩
          · rw [List.map_cons, List.nodup_cons]
            refine ⟨?_, hnodup⟩
            intro hmem
            obtain ⟨d, hd, hname⟩ := List.mem_map.mp hmem
            exact hfresh d hd (hname ▸ List.mem_cons_self)
          · intro d hd
            rcases List.mem_cons.mp hd with rfl | hd
            · exact htaken
            · exact fun hmem => hfresh d hd (List.mem_cons_of_mem _ hmem)
      · rintro ⟨⟨c, cs', hc, hall, rfl⟩, hnodup, hfresh⟩
        rw [List.map_cons, List.nodup_cons] at hnodup
        refine ⟨c, hc, ?_⟩
        rw [if_neg (hfresh c List.mem_cons_self)]
        apply Except.bind_eq_ok_iff.mpr
        refine ⟨cs', ih.mpr ⟨hall, hnodup.2, ?_⟩, rfl⟩
        intro d hd hmem
        rcases List.mem_cons.mp hmem with hname | hmem
        · exact hnodup.1 (hname ▸ List.mem_map_of_mem hd)
        · exact hfresh d (List.mem_cons_of_mem c hd) hmem

/-! ## Tables -/

theorem mem_references_iff {t : Table} {a : QualifiedName} :
    a ∈ t.references ↔ ∃ c ∈ t.keys ++ t.values, c.type = .reference a := by
  unfold Table.references Table.columns
  rw [List.mem_filterMap]
  refine exists_congr fun c => and_congr_right fun _ => ?_
  cases htype : c.type <;> simp [Column.reference?, htype]

theorem Record.table_eq_ok_iff {r : Record RecordId} {t : Table} :
    r.table catalog config = .ok t ↔
      ∃ cs, r.qualifiedName config = .ok t.name ∧ r.columns catalog config = .ok cs ∧
        t.record = r.ident ∧ t.keys = cs.filter (fun c => c.role = .key) ∧
        t.values = cs.filter fun c => c.role ≠ .key := by
  have hsplit (cs : List Column) :
      cs.partition (fun c => c.role = .key) =
        (cs.filter (fun c => c.role = .key), cs.filter fun c => c.role ≠ .key) := by
    rw [List.partition_eq_filter_filter]
    simp [Function.comp_def]
  unfold Record.table
  rw [Except.bind_eq_ok_iff]
  constructor
  · rintro ⟨name, hname, hrest⟩
    obtain ⟨cs, hcs, ht⟩ := Except.bind_eq_ok_iff.mp hrest
    rw [hsplit cs] at ht
    cases ht
    exact ⟨cs, hname, hcs, rfl, rfl, rfl⟩
  · rintro ⟨cs, hname, hcs, hrecord, hkeys, hvalues⟩
    refine ⟨t.name, hname, ?_⟩
    apply Except.bind_eq_ok_iff.mpr
    refine ⟨cs, hcs, ?_⟩
    rw [hsplit cs, ← hrecord, ← hkeys, ← hvalues]
    rfl

/-- The columns of a built table are those of the fields, in two groups. -/
theorem Record.exists_field_of_mem {r : Record RecordId} {t : Table}
    (ht : r.table catalog config = .ok t) {c : Column} (hc : c ∈ t.keys ++ t.values) :
    ∃ f ∈ r.fields, f.column catalog config r.ident = .ok c := by
  obtain ⟨cs, _, hcs, _, hkeys, hvalues⟩ := Record.table_eq_ok_iff.mp ht
  have hmem : c ∈ cs := by
    rw [hkeys, hvalues, List.mem_append, List.mem_filter, List.mem_filter] at hc
    exact hc.elim And.left And.left
  obtain ⟨hall, _⟩ := Field.columns_eq_ok_iff.mp hcs
  exact exists_left_of_forall₂ hall hmem

theorem Record.exists_column_of_mem {r : Record RecordId} {t : Table}
    (ht : r.table catalog config = .ok t) {f : Field RecordId} (hf : f ∈ r.fields) :
    ∃ c ∈ t.keys ++ t.values, f.column catalog config r.ident = .ok c := by
  obtain ⟨cs, _, hcs, _, hkeys, hvalues⟩ := Record.table_eq_ok_iff.mp ht
  obtain ⟨hall, _⟩ := Field.columns_eq_ok_iff.mp hcs
  obtain ⟨c, hc, hcolumn⟩ := exists_right_of_forall₂ hall hf
  refine ⟨c, ?_, hcolumn⟩
  rw [hkeys, hvalues, List.mem_append, List.mem_filter, List.mem_filter]
  by_cases hrole : c.role = .key
  · exact Or.inl ⟨hc, by simpa using hrole⟩
  · exact Or.inr ⟨hc, by simpa using hrole⟩

/-- The names in a table are such that nothing in its declaration can be mistaken. -/
structure Table.WellFormed (t : Table) : Prop where
  name : t.name.WellFormed
  column : ∀ c ∈ t.keys ++ t.values, IsIdentifier c.name.toList
  reference : ∀ c ∈ t.keys ++ t.values, ∀ q, c.type = .reference q → q.WellFormed

theorem Table.WellFormed.of_mem_references {t : Table} (ht : t.WellFormed) {q : QualifiedName}
    (hq : q ∈ t.references) : q.WellFormed := by
  obtain ⟨c, hc, htype⟩ := mem_references_iff.mp hq
  exact ht.reference c hc q htype

theorem Record.table_wellFormed {r : Record RecordId} {t : Table}
    (ht : r.table catalog config = .ok t) : t.WellFormed := by
  constructor
  · obtain ⟨_, hname, _⟩ := Record.table_eq_ok_iff.mp ht
    exact Record.qualifiedName_wellFormed hname
  · intro c hc
    obtain ⟨f, _, hcolumn⟩ := Record.exists_field_of_mem ht hc
    obtain ⟨_, hname, _⟩ := Field.column_eq_ok_iff.mp hcolumn
    exact (checkName_eq_ok_iff.mp hname).1
  · intro c hc q htype
    obtain ⟨f, _, hcolumn⟩ := Record.exists_field_of_mem ht hc
    obtain ⟨_, _, hfield, _⟩ := Field.column_eq_ok_iff.mp hcolumn
    rw [htype] at hfield
    obtain ⟨_, _, hq⟩ := Field.columnType_eq_reference hfield
    exact Record.qualifiedName_wellFormed hq

/-- What a built table refers to are the tables of records that its fields point to first. -/
theorem Record.exists_target_of_mem {r : Record RecordId} {t : Table}
    (ht : r.table catalog config = .ok t) {q : QualifiedName} (hq : q ∈ t.references) :
    ∃ f ∈ r.fields, ∃ target, f.target? = some target ∧
      (catalog target).qualifiedName config = .ok q := by
  obtain ⟨c, hc, htype⟩ := mem_references_iff.mp hq
  obtain ⟨f, hf, hcolumn⟩ := Record.exists_field_of_mem ht hc
  obtain ⟨_, _, hfield, _⟩ := Field.column_eq_ok_iff.mp hcolumn
  rw [htype] at hfield
  exact ⟨f, hf, Field.columnType_eq_reference hfield⟩

end KdbSchema

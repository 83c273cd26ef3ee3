import KdbSchema.Proofs.Table.Build

/-!
# The columns of a built table

The key columns of a built table are those of the key fields and its other columns those of the
other fields, both in the order of the fields.  A column that is no key refers to a table exactly if
its role says so, and a unique column has no placement; so a column shows all that is known of it.
-/

namespace KdbSchema

variable {catalog : Catalog} {config : Config} {record : String}

/-! ## Types and targets -/

/-- A built table refers to the tables of the records that its fields point to first. -/
theorem Record.mem_references_iff {r : Record RecordId} {t : Table}
    (ht : r.table catalog config = .ok t) {q : QualifiedName} :
    q ∈ t.references ↔ ∃ f ∈ r.fields, ∃ target, f.target? = some target ∧
      (catalog target).qualifiedName config = .ok q := by
  constructor
  · exact Record.exists_target_of_mem ht
  · rintro ⟨f, hf, target, htarget, hq⟩
    obtain ⟨c, hc, hcolumn⟩ := Record.exists_column_of_mem ht hf
    obtain ⟨_, _, hfield, _⟩ := Field.column_eq_ok_iff.mp hcolumn
    obtain ⟨q', hq', htype⟩ := Field.columnType_of_target hfield htarget
    rw [hq] at hq'
    cases hq'
    exact KdbSchema.mem_references_iff.mpr ⟨c, hc, htype⟩

/-! ## What a column shows -/

/-- The role of a column that is no key follows from its type, and a unique column has no
placement. -/
structure Column.Settled (c : Column) : Prop where
  role_eq : c.role ≠ .key → c.role = if c.isForeignKey then .foreignKey else .value
  placement_eq : c.isUnique = true → c.placement = .none

theorem Field.placement_of_isUnique {f : Field RecordId} {p : Placement}
    (h : f.placement = .ok p) (hunique : f.isUnique = true) : p = .none := by
  rcases Field.placement_eq_ok_iff.mp h with ⟨_, hp⟩ | ⟨_, _, _, hplain⟩
  · exact hp.symm
  · rw [hunique] at hplain
    cases hplain

theorem Field.column_settled {f : Field RecordId} {c : Column}
    (h : f.column catalog config record = .ok c) : c.Settled := by
  obtain ⟨hplacement, _, htype, _, hrole, hunique⟩ := Field.column_eq_ok_iff.mp h
  constructor
  · intro hkey
    have hforeign : c.isForeignKey = f.target?.isSome := by
      rcases Field.columnType_cases htype with ⟨hnone, tag, hc⟩ | ⟨target, q, hsome, _, hc⟩
      · simp [Column.isForeignKey, Column.reference?, hc, hnone]
      · simp [Column.isForeignKey, Column.reference?, hc, hsome]
    rw [hrole, Field.role] at hkey ⊢
    cases hisKey : f.isKey with
    | true => simp [hisKey] at hkey
    | false => simp [hforeign]
  · intro hc
    exact Field.placement_of_isUnique hplacement (hunique ▸ hc)

/-! ## Key columns and other columns -/

theorem Field.role_eq_key_iff {f : Field RecordId} : f.role = .key ↔ f.isKey = true := by
  unfold Field.role
  cases f.isKey <;> cases f.target? <;> simp

section Built

variable {r : Record RecordId} {t : Table} (ht : r.table catalog config = .ok t)

include ht

theorem Record.settled_of_mem {c : Column} (hc : c ∈ t.keys ++ t.values) : c.Settled := by
  obtain ⟨f, _, hcolumn⟩ := Record.exists_field_of_mem ht hc
  exact Field.column_settled hcolumn

theorem Record.role_of_mem_keys {c : Column} (hc : c ∈ t.keys) : c.role = .key := by
  obtain ⟨cs, _, _, _, hkeys, _⟩ := Record.table_eq_ok_iff.mp ht
  rw [hkeys, List.mem_filter] at hc
  simpa using hc.2

theorem Record.role_of_mem_values {c : Column} (hc : c ∈ t.values) : c.role ≠ .key := by
  obtain ⟨cs, _, _, _, _, hvalues⟩ := Record.table_eq_ok_iff.mp ht
  rw [hvalues, List.mem_filter] at hc
  simpa using hc.2

/-- The columns of a built table, key columns and others, come from the key fields and the other
fields in the order of these. -/
theorem Record.forall₂_fields_columns :
    List.Forall₂ (fun f c => f.column catalog config r.ident = .ok c)
        (r.fields.filter fun f => f.isKey) t.keys ∧
      List.Forall₂ (fun f c => f.column catalog config r.ident = .ok c)
        (r.fields.filter fun f => !f.isKey) t.values := by
  obtain ⟨cs, _, hcs, _, hkeys, hvalues⟩ := Record.table_eq_ok_iff.mp ht
  obtain ⟨hall, _⟩ := Field.columns_eq_ok_iff.mp hcs
  have hkey : ∀ (f : Field RecordId) (c : Column), f.column catalog config r.ident = .ok c →
      (f.isKey = true ↔ c.role = .key) := by
    intro f c hcolumn
    obtain ⟨_, _, _, _, hrole, _⟩ := Field.column_eq_ok_iff.mp hcolumn
    rw [hrole, Field.role_eq_key_iff]
  constructor
  · rw [hkeys]
    refine List.rel_filter ?_ hall
    intro f c hcolumn
    simpa using hkey f c hcolumn
  · rw [hvalues]
    refine List.rel_filter ?_ hall
    intro f c hcolumn
    simpa using not_congr (hkey f c hcolumn)

theorem Record.names_keys :
    t.keys.map Column.name = (r.fields.filter fun f => f.isKey).map Field.columnName := by
  refine (map_eq_map_iff_forall₂.mpr ?_).symm
  refine (Record.forall₂_fields_columns ht).1.imp fun f c hcolumn => ?_
  exact (Field.column_eq_ok_iff.mp hcolumn).2.2.2.1.symm

theorem Record.names_values :
    t.values.map Column.name = (r.fields.filter fun f => !f.isKey).map Field.columnName := by
  refine (map_eq_map_iff_forall₂.mpr ?_).symm
  refine (Record.forall₂_fields_columns ht).2.imp fun f c hcolumn => ?_
  exact (Field.column_eq_ok_iff.mp hcolumn).2.2.2.1.symm

theorem Record.columns_perm {cs : List Column} (hcs : r.columns catalog config = .ok cs) :
    (t.keys ++ t.values).Perm cs := by
  obtain ⟨cs', _, hcs', _, hkeys, hvalues⟩ := Record.table_eq_ok_iff.mp ht
  rw [hcs, Except.ok.injEq] at hcs'
  rw [hkeys, hvalues, ← hcs']
  simpa using List.filter_append_perm (fun c => decide (c.role = .key)) cs

theorem Record.names_nodup : ((t.keys ++ t.values).map Column.name).Nodup := by
  obtain ⟨cs, _, hcs, _⟩ := Record.table_eq_ok_iff.mp ht
  obtain ⟨_, hnodup, _⟩ := Field.columns_eq_ok_iff.mp hcs
  exact ((Record.columns_perm ht hcs).map Column.name).nodup_iff.mpr hnodup

theorem Record.checkName_of_mem {c : Column} (hc : c ∈ t.keys ++ t.values) :
    checkName .column config.reserved.columns c.name = .ok () := by
  obtain ⟨f, _, hcolumn⟩ := Record.exists_field_of_mem ht hc
  exact (Field.column_eq_ok_iff.mp hcolumn).2.1

end Built

end KdbSchema

import KdbSchema.Proofs.Table.Columns
import KdbSchema.Proofs.Table.PlacedColumns

/-!
# What holds of every built table

Declaring, ordering and telling tables apart rest on facts about a table that no type enforces.  Its
two lists of columns are the key columns and the others in the order of the fields, and no name
stands in them twice; a column with a placement is neither a reference nor unique; a column that is
no key is a foreign key exactly if it is a reference; and what the table refers to are the tables of
the records that its fields point to first, key fields before the others.
-/

namespace KdbSchema

variable {catalog : Catalog} {config : Config} {r : Record RecordId} {t : Table}

/-- What holds of the table `t` that is built from the columns `cs` of the record `r`. -/
structure Table.Faithful (catalog : Catalog) (config : Config) (r : Record RecordId)
    (cs : List Column) (t : Table) : Prop where
  keys_role : ∀ c ∈ t.keys, c.role = .key
  values_role : ∀ c ∈ t.values, c.role ≠ .key
  keys_eq : t.keys = cs.filter fun c => c.role = .key
  values_eq : t.values = cs.filter fun c => c.role ≠ .key
  columns_perm : (t.keys ++ t.values).Perm cs
  length_eq : t.keys.length + t.values.length = r.fields.length
  names_nodup : ((t.keys ++ t.values).map Column.name).Nodup
  placed : ∀ c ∈ t.keys ++ t.values, c.placement ≠ .none →
    (∃ tag, c.type = .atomic tag) ∧ c.isUnique = false
  foreign : ∀ c ∈ t.values, c.role = .foreignKey ↔ ∃ q, c.type = .reference q
  references :
    List.Forall₂ (fun target q => (catalog target).qualifiedName config = .ok q)
      ((r.fields.filter Field.isKey ++ r.fields.filter fun f => !f.isKey).filterMap Field.target?)
      t.references

theorem Column.isForeignKey_eq_true_iff {c : Column} :
    c.isForeignKey = true ↔ ∃ q, c.type = .reference q := by
  cases htype : c.type <;> simp [Column.isForeignKey, Column.reference?, htype]

theorem Column.Settled.foreignKey_iff {c : Column} (h : c.Settled) (hkey : c.role ≠ .key) :
    c.role = .foreignKey ↔ ∃ q, c.type = .reference q := by
  rw [h.role_eq hkey, ← Column.isForeignKey_eq_true_iff]
  cases c.isForeignKey <;> simp

/-- The targets of fields and the references of their columns correspond, field by field. -/
theorem forall₂_targets_references {record : String} {fs : List (Field RecordId)}
    {cs : List Column} (h : List.Forall₂ (fun f c => f.column catalog config record = .ok c) fs cs) :
    List.Forall₂ (fun target q => (catalog target).qualifiedName config = .ok q)
      (fs.filterMap Field.target?) (cs.filterMap Column.reference?) := by
  refine List.rel_filterMap ?_ h
  intro f c hcolumn
  obtain ⟨_, _, htype, _⟩ := Field.column_eq_ok_iff.mp hcolumn
  rcases Field.columnType_cases htype with ⟨hnone, tag, hc⟩ | ⟨target, q, hsome, hq, hc⟩
  · simp only [hnone, Column.reference?, hc]
    exact .none
  · simp only [hsome, Column.reference?, hc]
    exact .some hq

/-- A record whose table is built has columns, and the table represents them. -/
theorem Record.table_faithful (catalog : Catalog) (config : Config) (r : Record RecordId)
    (t : Table) (ht : r.table catalog config = .ok t) :
    ∃ cs, r.columns catalog config = .ok cs ∧ t.Faithful catalog config r cs := by
  obtain ⟨cs, _, hcs, _, hkeys, hvalues⟩ := Record.table_eq_ok_iff.mp ht
  obtain ⟨hall, _⟩ := Field.columns_eq_ok_iff.mp hcs
  obtain ⟨hkeyFields, hotherFields⟩ := Record.forall₂_fields_columns ht
  have hperm : (t.keys ++ t.values).Perm cs := Record.columns_perm ht hcs
  refine ⟨cs, hcs, ?_⟩
  exact
    { keys_role := fun c hc => Record.role_of_mem_keys ht hc
      values_role := fun c hc => Record.role_of_mem_values ht hc
      keys_eq := hkeys
      values_eq := hvalues
      columns_perm := hperm
      length_eq := by
        rw [← List.length_append, hperm.length_eq, hall.length_eq]
      names_nodup := Record.names_nodup ht
      placed := by
        intro c hc hplaced
        obtain ⟨f, _, hcolumn⟩ := Record.exists_field_of_mem ht hc
        obtain ⟨hunique, tag, htype, _⟩ := Field.type_of_placed hcolumn hplaced
        exact ⟨⟨tag, htype⟩, hunique⟩
      foreign := by
        intro c hc
        have hsettled := Record.settled_of_mem ht (List.mem_append_right t.keys hc)
        exact hsettled.foreignKey_iff (Record.role_of_mem_values ht hc)
      references := forall₂_targets_references (List.rel_append hkeyFields hotherFields) }

/-- A trade with a unique note, a sorted number, and two references, one of them a key that stands
after the other and points to two records. -/
theorem Record.table_faithful_trade :
    let venue : Record RecordId := { ident := "Venue", marker := some "ref" }
    let trade : Record RecordId :=
      { ident := "Trade"
        fields :=
          [{ ident := "Note", type := .primitive .text, modifiers := [.stringOverride, .unique] },
           { ident := "Previous", type := .unsupported "Trade", modifiers := [.foreignKey 1] },
           { ident := "Id", type := .primitive .int64, modifiers := [.sorted, .key] },
           { ident := "Venue", type := .unsupported "Venue",
             modifiers := [.foreignKey 0, .key, .foreignKey 1] }] }
    let catalog : Catalog := fun id => if id = 0 then venue else trade
    let t : Table :=
      { record := "Trade", name := ⟨none, "trade"⟩
        keys :=
          [{ name := "id", type := .atomic .long, role := .key, placement := .sorted },
           { name := "venue", type := .reference ⟨some "ref", "venue"⟩, role := .key }]
        values :=
          [{ name := "note", type := .atomic .string, isUnique := true },
           { name := "previous", type := .reference ⟨none, "trade"⟩, role := .foreignKey }] }
    trade.table catalog {} = .ok t ∧
      (∃ cs, trade.columns catalog {} = .ok cs ∧ t.Faithful catalog {} trade cs) ∧
      t.references = [⟨some "ref", "venue"⟩, ⟨none, "trade"⟩] := by
  intro venue trade catalog t
  have htable : trade.table catalog {} = .ok t := by decide +kernel
  exact ⟨htable, Record.table_faithful catalog {} trade t htable, by decide +kernel⟩

end KdbSchema

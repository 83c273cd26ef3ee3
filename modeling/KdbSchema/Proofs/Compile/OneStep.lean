import KdbSchema.Proofs.Compile.Dependence
import KdbSchema.Proofs.Compile.OrderOutcome

/-!
# One record alone

The table of a record is made from the record and from the names of the records that its fields
point to first.  Nothing else is asked of these records: their own fields may be refused, point back
or lead into circles.  So the script for one record, listed however often, is its declaration,
unless the table refers to its own name; and for this the record need not point to itself.
-/

namespace KdbSchema

/-- Two records have all in common that a name is resolved from. -/
structure Record.NamedAlike {ρ : Type} (r s : Record ρ) : Prop where
  ident : s.ident = r.ident
  tableName : s.tableName = r.tableName
  marker : s.marker = r.marker

/-- Two catalogs agree on a record, and on what names the records that its fields point to first. -/
structure Catalog.AgreeOneStep (catalog catalog' : Catalog) (id : RecordId) : Prop where
  record : catalog' id = catalog id
  targets : ∀ f ∈ (catalog id).fields, ∀ target, f.target? = some target →
    (catalog target).NamedAlike (catalog' target)

theorem Failure.message_cycle_self (q : QualifiedName) :
    (Failure.cycle [q, q]).message = "foreign-key cycle: " ++ q.text ++ " -> " ++ q.text := by
  have htexts : " -> ".intercalate [q.text, q.text] = q.text ++ " -> " ++ q.text := by
    rw [String.intercalate_cons_cons, String.intercalate_singleton]
  calc
    (Failure.cycle [q, q]).message
      = "foreign-key cycle: " ++ " -> ".intercalate [q.text, q.text] := rfl
    _ = "foreign-key cycle: " ++ q.text ++ " -> " ++ q.text := by
      rw [htexts, ← String.append_assoc, ← String.append_assoc]

namespace Compiler

variable {k : Compiler} {catalog' : Catalog} {ids : List RecordId} {id : RecordId} {t : Table}

def withCatalog (k : Compiler) (catalog' : Catalog) : Compiler := { k with catalog := catalog' }

/-! ## What lies further away -/

theorem tableName_withCatalog (h : (k.catalog id).NamedAlike (catalog' id)) :
    (k.withCatalog catalog').tableName id = k.tableName id := by
  refine tableName_congr h.ident h.tableName ?_ rfl
  simp only [withCatalog, h.marker]

theorem table_withCatalog (h : k.catalog.AgreeOneStep catalog' id) :
    (k.withCatalog catalog').table id = k.table id := by
  have hself : (k.catalog id).NamedAlike (catalog' id) := by
    rw [h.record]
    exact ⟨rfl, rfl, rfl⟩
  apply table_congr
  · exact congrArg Record.ident h.record
  · exact congrArg Record.fields h.record
  · rfl
  · exact tableName_withCatalog hself
  · intro f hf target htarget
    exact tableName_withCatalog (h.targets f hf target htarget)

theorem agree_withCatalog (h : ∀ id ∈ ids, k.catalog.AgreeOneStep catalog' id) :
    Agree (k.withCatalog catalog') k ids :=
  Agree.of_table rfl fun id hid => table_withCatalog (h id hid)

/-! ## A script for one record -/

section Alone

variable (hne : ids ≠ []) (hall : ∀ i ∈ ids, i = id)

include hne hall

theorem declareSchema_of_error {e : Failure} (h : k.table id = .error e) :
    k.declareSchema ids = .error e := by
  rw [declareSchema_eq_error_iff, order_of_forall_eq hne hall, h]
  rfl

theorem declareSchema_of_self (ht : k.table id = .ok t) (href : t.name ∈ t.references) :
    k.declareSchema ids = .error (.cycle [t.name, t.name]) := by
  rw [declareSchema_eq_error_iff, order_of_forall_eq hne hall, ht]
  exact orderTables_singleton_self href

theorem declareSchema_of_not_self (ht : k.table id = .ok t) (href : t.name ∉ t.references) :
    k.declareSchema ids = .ok (t.declaration k.config.uniqueAttribute ++ "\n") := by
  have horder : k.order ids = .ok [t] := by
    rw [order_of_forall_eq hne hall, ht]
    exact orderTables_singleton href
  refine declareSchema_eq_ok_iff.mpr ⟨[t], horder, ?_⟩
  simp [script]

end Alone

/-- A record's table and its declaration are the same in all catalogs that agree on the record and
on what names the records that its fields point to first.  A script for this record alone fails
where the declaration does, with the same failure; if the table refers to its own name, it fails with
the circle of this one name; and otherwise it is the declaration on a line of its own. -/
theorem table_looks_one_step (k : Compiler) (id : RecordId) :
    (∀ catalog', k.catalog.AgreeOneStep catalog' id →
      (k.withCatalog catalog').table id = k.table id ∧
      (k.withCatalog catalog').declareTable id = k.declareTable id) ∧
    ∀ ids : List RecordId, ids ≠ [] → (∀ i ∈ ids, i = id) →
      (∀ e, k.declareTable id = .error e → k.declareSchema ids = .error e) ∧
      ∀ t, k.table id = .ok t →
        ∃ text, k.declareTable id = .ok text ∧
          (t.name ∈ t.references →
            ∃ e, k.declareSchema ids = .error e ∧ e = .cycle [t.name, t.name] ∧
              e.message = "foreign-key cycle: " ++ t.name.text ++ " -> " ++ t.name.text) ∧
          (t.name ∉ t.references → k.declareSchema ids = .ok (text ++ "\n")) := by
  constructor
  · intro catalog' hcatalog
    have hagree : Agree (k.withCatalog catalog') k [id] := by
      apply agree_withCatalog
      intro i hi
      rwa [List.mem_singleton.mp hi]
    have hid : id ∈ [id] := List.mem_singleton_self id
    exact ⟨hagree.table id hid, hagree.declareTable id hid⟩
  · intro ids hne hall
    constructor
    · intro e he
      exact declareSchema_of_error hne hall (declareTable_eq_error_iff.mp he)
    · intro t ht
      refine ⟨_, declareTable_eq_ok_iff.mpr ⟨t, ht, rfl⟩, ?_, ?_⟩
      · intro href
        exact ⟨_, declareSchema_of_self hne hall ht href, rfl, Failure.message_cycle_self t.name⟩
      · exact declareSchema_of_not_self hne hall ht

/-- The record `fill` points to `quote`, which in one catalog cannot be built and points back.  The
last record takes the name `quote` too and so refers to its own name without pointing to itself. -/
theorem table_looks_one_step_quote :
    let names := ["fill", "quote", "quote"]
    let k : Compiler := { catalog := .linked names fun id => [[1], [0, 3], [1]].getD id [] }
    let catalog' : Catalog := .linked names fun id => [[1], [], [1]].getD id []
    k.catalog.AgreeOneStep catalog' 0 ∧
      (k.withCatalog catalog').table 1 ≠ k.table 1 ∧
      (k.withCatalog catalog').declareTable 0 = k.declareTable 0 ∧
      k.declareSchema [0, 0] = .ok ".fill:([]quote:`.quote$())\n" ∧
      k.declareSchema [1] = .error (.columnName "quote" "" .empty) ∧
      k.declareSchema [2, 2] = .error (.cycle [⟨none, "quote"⟩, ⟨none, "quote"⟩]) := by
  intro names k catalog'
  have hcatalog : k.catalog.AgreeOneStep catalog' 0 := by
    refine ⟨rfl, ?_⟩
    intro f hf target htarget
    rw [List.mem_singleton.mp hf] at htarget
    cases htarget
    exact ⟨rfl, rfl, rfl⟩
  have hdiffer : (k.withCatalog catalog').table 1 ≠ k.table 1 := by decide +kernel
  have hsame := ((table_looks_one_step k 0).1 catalog' hcatalog).2
  have hfill : k.table 0 = .ok (Table.referringTo "fill" ["quote"]) := by decide +kernel
  have hquote : k.declareTable 1 = .error (.columnName "quote" "" .empty) := by decide +kernel
  have hsecond : k.table 2 = .ok (Table.referringTo "quote" ["quote"]) := by decide +kernel
  obtain ⟨text, htext, _, hscript⟩ :=
    ((table_looks_one_step k 0).2 [0, 0] (by decide) (by decide)).2 _ hfill
  obtain ⟨_, _, hself, _⟩ :=
    ((table_looks_one_step k 2).2 [2, 2] (by decide) (by decide)).2 _ hsecond
  obtain ⟨_, hcycle, rfl, _⟩ := hself (by decide)
  have hfails := ((table_looks_one_step k 1).2 [1] (by decide) (by decide)).1 _ hquote
  refine ⟨hcatalog, hdiffer, hsame, ?_, hfails, hcycle⟩
  have hfill_text : k.declareTable 0 = .ok ".fill:([]quote:`.quote$())" := by decide +kernel
  rw [htext] at hfill_text
  rw [hscript (by decide), Except.ok.inj hfill_text]
  rfl

end Compiler

end KdbSchema

import KdbSchema.Compile
import KdbSchema.Proofs.Lists
import KdbSchema.Proofs.Outcome

/-!
# How requests end

A declaration adds only the text to a table.  A request for several records first drops repetitions,
then builds the tables and then orders them, and a script again only adds the text.  The lemmas tell
from which of these stages an outcome comes.
-/

namespace KdbSchema

/-- The catalog of records with the given names, where the record `id` has one foreign key for each
record of `links id`. -/
def Catalog.linked (names : List String) (links : RecordId → List RecordId) : Catalog := fun id =>
  { ident := names.getD id ""
    fields := (links id).map fun target =>
      { ident := names.getD target "", type := .primitive .int64,
        modifiers := [.foreignKey target] } }

namespace Compiler

variable {k : Compiler} {ids : List RecordId} {ts out : List Table} {e : Failure}

theorem tableName_of_table {id : RecordId} {t : Table} (h : k.table id = .ok t) :
    k.tableName id = .ok t.name := by
  obtain ⟨name, hname, hrest⟩ := Except.bind_eq_ok_iff.mp h
  obtain ⟨_, _, ht⟩ := Except.bind_eq_ok_iff.mp hrest
  cases ht
  exact hname

theorem map_tableName_of_forall₂
    (h : List.Forall₂ (fun id t => k.table id = .ok t) ids ts) :
    ids.map k.tableName = (ts.map Table.name).map .ok := by
  induction h with
  | nil => rfl
  | cons ht _ ih =>
      rw [List.map_cons, List.map_cons, List.map_cons, tableName_of_table ht, ih]

theorem declareTable_eq_ok_iff {id : RecordId} {text : String} :
    k.declareTable id = .ok text ↔
      ∃ t, k.table id = .ok t ∧ t.declaration k.config.uniqueAttribute = text := by
  unfold declareTable
  rw [Except.bind_eq_ok_iff]
  refine exists_congr fun t => and_congr_right fun _ => ?_
  constructor
  · intro h
    cases h
    rfl
  · rintro rfl
    rfl

theorem declareTable_eq_error_iff {id : RecordId} :
    k.declareTable id = .error e ↔ k.table id = .error e := by
  unfold declareTable
  rw [Except.bind_eq_error_iff]
  constructor
  · rintro (h | ⟨_, _, h⟩)
    · exact h
    · cases h
  · exact Or.inl

theorem order_eq_ok_iff :
    k.order ids = .ok out ↔
      ∃ ts, ids.eraseDups.mapM k.table = .ok ts ∧ orderTables ts = .ok out :=
  Except.bind_eq_ok_iff

theorem order_eq_error_iff :
    k.order ids = .error e ↔ ids.eraseDups.mapM k.table = .error e ∨
      ∃ ts, ids.eraseDups.mapM k.table = .ok ts ∧ orderTables ts = .error e :=
  Except.bind_eq_error_iff

theorem declareSchema_eq_ok_iff {text : String} :
    k.declareSchema ids = .ok text ↔
      ∃ out, k.order ids = .ok out ∧ script k.config.uniqueAttribute out = text := by
  unfold declareSchema
  rw [Except.bind_eq_ok_iff]
  refine exists_congr fun out => and_congr_right fun _ => ?_
  constructor
  · intro h
    cases h
    rfl
  · rintro rfl
    rfl

theorem declareSchema_eq_error_iff :
    k.declareSchema ids = .error e ↔ k.order ids = .error e := by
  unfold declareSchema
  rw [Except.bind_eq_error_iff]
  constructor
  · rintro (h | ⟨_, _, h⟩)
    · exact h
    · cases h
  · exact Or.inl

end Compiler

end KdbSchema

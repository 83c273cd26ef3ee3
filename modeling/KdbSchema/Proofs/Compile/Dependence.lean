import KdbSchema.Proofs.Compile.Requests
import KdbSchema.Proofs.Table.Dependence

/-!
# What requests depend on

A request for a table needs the record itself and the names of the records that its fields point to
first.  A request for several tables needs these tables and nothing else, and a script also needs to
know whether unique columns are marked.  So two compilers that agree on tables agree on requests for
several of them.
-/

namespace KdbSchema

namespace Compiler

variable {P : Failure → Prop} {k k' : Compiler} {ids : List RecordId} {id : RecordId}

/-! ## Requests for several tables -/

theorem order_agreesUnless (h : ∀ id ∈ ids, AgreesUnless P (k.table id) (k'.table id)) :
    AgreesUnless P (k.order ids) (k'.order ids) := by
  unfold order
  apply AgreesUnless.bind
  · apply AgreesUnless.mapM
    intro id hid
    exact h id (List.mem_eraseDups.mp hid)
  · intro ts
    exact .refl P _

theorem declareTable_agreesUnless
    (hunique : k'.config.uniqueAttribute = k.config.uniqueAttribute)
    (h : AgreesUnless P (k.table id) (k'.table id)) :
    AgreesUnless P (k.declareTable id) (k'.declareTable id) := by
  unfold declareTable
  rw [hunique]
  apply h.bind
  intro t
  exact .refl P _

theorem declareSchema_agreesUnless
    (hunique : k'.config.uniqueAttribute = k.config.uniqueAttribute)
    (h : ∀ id ∈ ids, AgreesUnless P (k.table id) (k'.table id)) :
    AgreesUnless P (k.declareSchema ids) (k'.declareSchema ids) := by
  unfold declareSchema
  rw [hunique]
  apply (order_agreesUnless h).bind
  intro ts
  exact .refl P _

/-! ## Equal tables -/

theorem order_congr (h : ∀ id ∈ ids, k'.table id = k.table id) : k'.order ids = k.order ids := by
  apply AgreesUnless.never_iff.mp
  apply order_agreesUnless
  intro id hid
  exact AgreesUnless.never_iff.mpr (h id hid)

/-- Two compilers end the requests for the listed records alike. -/
structure Agree (k k' : Compiler) (ids : List RecordId) : Prop where
  table : ∀ id ∈ ids, k.table id = k'.table id
  declareTable : ∀ id ∈ ids, k.declareTable id = k'.declareTable id
  order : k.order ids = k'.order ids
  declareSchema : k.declareSchema ids = k'.declareSchema ids

theorem Agree.of_table (hunique : k.config.uniqueAttribute = k'.config.uniqueAttribute)
    (h : ∀ id ∈ ids, k.table id = k'.table id) : Agree k k' ids := by
  have hagree : ∀ id ∈ ids, AgreesUnless (fun _ => False) (k'.table id) (k.table id) := by
    intro id hid
    exact AgreesUnless.never_iff.mpr (h id hid)
  refine ⟨h, ?_, order_congr h, ?_⟩
  · intro id hid
    exact AgreesUnless.never_iff.mp (declareTable_agreesUnless hunique (hagree id hid))
  · exact AgreesUnless.never_iff.mp (declareSchema_agreesUnless hunique hagree)

theorem tableName_congr (hident : (k'.catalog id).ident = (k.catalog id).ident)
    (htable : (k'.catalog id).tableName = (k.catalog id).tableName)
    (hspace : (k'.catalog id).marker.or k'.config.defaultNamespace =
      (k.catalog id).marker.or k.config.defaultNamespace)
    (hwords : k'.config.reserved.tables = k.config.reserved.tables) :
    k'.tableName id = k.tableName id := by
  apply AgreesUnless.never_iff.mp
  apply Record.qualifiedName_agreesUnless hident htable hspace
  intro base
  rw [hwords]
  exact .refl _ _

/-- A table depends on the identifier and the fields of its record, on its name, and on the names of
the records that its fields point to first. -/
theorem table_congr (hident : (k'.catalog id).ident = (k.catalog id).ident)
    (hfields : (k'.catalog id).fields = (k.catalog id).fields)
    (hwords : k'.config.reserved.columns = k.config.reserved.columns)
    (hname : k'.tableName id = k.tableName id)
    (htargets : ∀ f ∈ (k.catalog id).fields, ∀ target, f.target? = some target →
      k'.tableName target = k.tableName target) :
    k'.table id = k.table id := by
  apply AgreesUnless.never_iff.mp
  apply Record.table_agreesUnless hident (AgreesUnless.never_iff.mpr hname)
  rw [hfields, List.forall₂_same]
  intro f hf
  apply Field.column_agreesUnless
  · rw [hwords]
    exact .refl _ _
  · intro target htarget
    exact AgreesUnless.never_iff.mpr (htargets f hf target htarget)

end Compiler

end KdbSchema

import KdbSchema.Proofs.Compile.Requests
import KdbSchema.Proofs.Script.Grammar
import KdbSchema.Proofs.Table.Columns

/-!
# The form of a declaration

Whatever texts the description of a record holds, a declaration that is given for it is a word of
the grammar: every name in it has been checked, also those of the tables that it refers to.  Read
by the grammar, it lists the key fields in the brackets and the other fields after them, each once.
-/

namespace KdbSchema

namespace Compiler

variable {k : Compiler} {id : RecordId} {text : String}

/-- A declaration is a word of the grammar.  The columns inside the brackets are those of the key
fields and the columns after them those of the other fields, both in the order of the fields; no
other reading of the declaration is possible.  The names of the columns differ from each other and
are not reserved. -/
theorem declareTable_derivable (h : k.declareTable id = .ok text) :
    let fields := (k.catalog id).fields
    let keys := (fields.filter fun f => f.isKey).map Field.columnName
    let values := (fields.filter fun f => !f.isKey).map Field.columnName
    IsDeclaration keys values text.toList ∧
      (∀ keys' values', IsDeclaration keys' values' text.toList →
        keys' = keys ∧ values' = values) ∧
      (keys ++ values).Nodup ∧
      ∀ name ∈ keys ++ values, name ∉ columnWords ∧ name ∉ k.config.reserved.columns := by
  intro fields keys values
  obtain ⟨t, ht, rfl⟩ := declareTable_eq_ok_iff.mp h
  have hkeys : t.keys.map Column.name = keys := Record.names_keys ht
  have hvalues : t.values.map Column.name = values := Record.names_values ht
  have hall : (t.keys ++ t.values).map Column.name = keys ++ values := by
    rw [List.map_append, hkeys, hvalues]
  have hderived : IsDeclaration keys values
      (t.declaration k.config.uniqueAttribute).toList := by
    rw [← hkeys, ← hvalues]
    exact (Record.table_wellFormed ht).isDeclaration k.config.uniqueAttribute
  refine ⟨hderived, ?_, ?_, ?_⟩
  · intro keys' values' hother
    exact hother.names_unique hderived
  · rw [← hall]
    exact Record.names_nodup ht
  · intro name hname
    rw [← hall, List.mem_map] at hname
    obtain ⟨c, hc, rfl⟩ := hname
    exact (checkName_eq_ok_iff.mp (Record.checkName_of_mem ht hc)).2

/-- A key field stands behind a foreign key; the namespace of the record has two parts, and that of
the table referred to is the default one. -/
theorem declareTable_derivable_trade :
    let trade : Record RecordId :=
      { ident := "Trade", marker := some "mkt.eu"
        fields := [{ ident := "Venue", type := .unsupported "Venue", modifiers := [.foreignKey 1] },
          { ident := "Id", type := .primitive .int64, modifiers := [.unique, .key] }] }
    let venue : Record RecordId := { ident := "Venue", tableName := some "Venues" }
    let k : Compiler :=
      { catalog := fun id => if id = 0 then trade else venue
        config := { defaultNamespace := some "ref", reserved := { columns := ["sym"] } } }
    let text := ".mkt.eu.trade:([`u#id:`long$()]venue:`.ref.Venues$())"
    k.declareTable 0 = .ok text ∧ IsDeclaration ["id"] ["venue"] text.toList ∧
      (∀ keys values, IsDeclaration keys values text.toList → keys = ["id"] ∧ values = ["venue"]) ∧
      ∀ name ∈ ["id", "venue"], name ∉ columnWords ∧ name ∉ ["sym"] := by
  intro trade venue k text
  have h : k.declareTable 0 = .ok text := by decide +kernel
  obtain ⟨hderived, hunique, _, hreserved⟩ := declareTable_derivable h
  have hkeys : (trade.fields.filter fun f => f.isKey).map Field.columnName = ["id"] := by
    decide +kernel
  have hvalues : (trade.fields.filter fun f => !f.isKey).map Field.columnName = ["venue"] := by
    decide +kernel
  have htrade : k.catalog 0 = trade := rfl
  rw [htrade, hkeys, hvalues] at hderived hunique hreserved
  exact ⟨h, hderived, hunique, hreserved⟩

end Compiler

end KdbSchema

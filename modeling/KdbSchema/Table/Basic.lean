import KdbSchema.Table.Column

/-!
# Tables

A table has a qualified name, its key columns and its other columns.  It is built from a record by
resolving the name first and splitting the columns by role.
-/

namespace KdbSchema

structure Table where
  /-- The identifier of the record that the table declares. -/
  record : String
  name : QualifiedName
  keys : List Column := []
  values : List Column := []
deriving DecidableEq, Repr

namespace Table

def isKeyed (t : Table) : Bool := !t.keys.isEmpty

/-- All columns, keys first. -/
def columns (t : Table) : List Column := t.keys ++ t.values

def references (t : Table) : List QualifiedName := t.columns.filterMap Column.reference?

end Table

def Record.table (catalog : Catalog) (config : Config) (r : Record RecordId) :
    Except Failure Table := do
  let name ← r.qualifiedName config
  let columns ← r.columns catalog config
  let (keys, values) := columns.partition fun c => c.role = .key
  return { record := r.ident, name := name, keys := keys, values := values }

end KdbSchema

import KdbSchema.Reference.Order
import KdbSchema.Table.Declaration

/-!
# Compilation

What can be asked about records of a catalog under a configuration: the name of a record's table,
the table itself, its declaration, and the order and the script of several tables.  A record that is
listed more than once counts once; two records that happen to be equal do not.
-/

namespace KdbSchema

structure Compiler where
  catalog : Catalog
  config : Config := {}

namespace Compiler

variable (k : Compiler)

def tableName (id : RecordId) : Except Failure QualifiedName :=
  (k.catalog id).qualifiedName k.config

def columns (id : RecordId) : Except Failure (List Column) :=
  (k.catalog id).columns k.catalog k.config

def table (id : RecordId) : Except Failure Table :=
  (k.catalog id).table k.catalog k.config

/-- The tables of the listed records in declaration order. -/
def order (ids : List RecordId) : Except Failure (List Table) := do
  let tables ← ids.eraseDups.mapM k.table
  orderTables tables

def declareTable (id : RecordId) : Except Failure String := do
  let t ← k.table id
  return t.declaration k.config.uniqueAttribute

/-- The script that declares the tables of the listed records. -/
def declareSchema (ids : List RecordId) : Except Failure String := do
  let ts ← k.order ids
  return script k.config.uniqueAttribute ts

end Compiler

end KdbSchema

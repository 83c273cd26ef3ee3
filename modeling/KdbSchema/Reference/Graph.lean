import KdbSchema.Table.Basic

/-!
# The reference graph

Tables with pairwise different names, in ascending order of their names, and for each table the
positions of the tables that it refers to.  References to tables outside the graph carry no edge,
and a table that is referred to twice counts once, at its first mention.
-/

namespace KdbSchema

/-- Tables in ascending order of their names, with the positions that each one refers to. -/
structure ReferenceGraph where
  tables : List Table
  edges : List (List Nat)

/-- Puts a table at its place among tables that ascend by name. -/
def insertByName (t : Table) : List Table → Except Failure (List Table)
  | [] => .ok [t]
  | u :: us =>
    if t.name = u.name then .error (.duplicateTable t.name u.record t.record)
    else if t.name < u.name then .ok (t :: u :: us)
    else (insertByName t us).map (u :: ·)

/-- Sorts tables by name; two tables of one name are refused, the later one in the list being the
second. -/
def sortByName (ts : List Table) : Except Failure (List Table) :=
  ts.foldlM (fun sorted t => insertByName t sorted) []

def position? (ts : List Table) (name : QualifiedName) : Option Nat :=
  ts.findIdx? fun t => t.name = name

namespace ReferenceGraph

def ofTables (ts : List Table) : Except Failure ReferenceGraph := do
  let tables ← sortByName ts
  return {
    tables := tables
    edges := tables.map fun t => (t.references.filterMap (position? tables)).eraseDups }

def size (g : ReferenceGraph) : Nat := g.tables.length

def successors (g : ReferenceGraph) (n : Nat) : List Nat := g.edges.getD n []

/-- The names of the tables that the table of this name refers to. -/
def dependencies (g : ReferenceGraph) (name : QualifiedName) : List QualifiedName :=
  match position? g.tables name with
  | some n => (g.successors n).filterMap fun m => g.tables[m]?.map Table.name
  | none => []

end ReferenceGraph

end KdbSchema

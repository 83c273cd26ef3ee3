import KdbSchema.Table.Basic

/-!
# Declarations

The q text that declares an empty table:

    .space.base:([k:`long$()]a:`s#...;b:string())

that is, the name, the key columns in brackets and the other columns, each as an optional attribute,
the column name and an empty list of its type.
-/

namespace KdbSchema

def ColumnType.emptyList : ColumnType → String
  | .atomic tag => if tag.isCharList then "string()" else "`" ++ tag.token ++ "$()"
  | .reference table => "`" ++ table.text ++ "$()"

/-- The attribute before a column: its placement, or else the unique mark where that is wanted. -/
def Column.attributeText (uniqueAttribute : Bool) (c : Column) : String :=
  match c.placement.letter? with
  | some letter => "`" ++ letter.toString ++ "#"
  | none => if c.isUnique && uniqueAttribute then "`u#" else ""

def Column.declaration (uniqueAttribute : Bool) (c : Column) : String :=
  c.attributeText uniqueAttribute ++ c.name ++ ":" ++ c.type.emptyList

def columnsDeclaration (uniqueAttribute : Bool) (cs : List Column) : String :=
  ";".intercalate (cs.map (Column.declaration uniqueAttribute))

/-- The declaration of a table, without a line break. -/
def Table.declaration (uniqueAttribute : Bool) (t : Table) : String :=
  t.name.text ++ ":([" ++ columnsDeclaration uniqueAttribute t.keys ++ "]"
    ++ columnsDeclaration uniqueAttribute t.values ++ ")"

/-- A script that declares tables in the given order, each on a line of its own. -/
def script (uniqueAttribute : Bool) (ts : List Table) : String :=
  String.join (ts.map fun t => t.declaration uniqueAttribute ++ "\n")

end KdbSchema

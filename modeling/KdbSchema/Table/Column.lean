import KdbSchema.Config.Basic
import KdbSchema.Failure
import KdbSchema.Record

/-!
# Columns

Each field of a record becomes one column.  A field is checked in a fixed order: its placement, its
name, its type, and last whether an earlier column has the same name.  The first fault ends the
extraction.  A foreign key takes the name of its target's table as its type; of the target only the
identifier, the table name and the marker matter.
-/

namespace KdbSchema

inductive ColumnRole where
  | key
  | value
  | foreignKey
deriving DecidableEq, Repr

/-- The type of a column: an atomic tag, or the name of the table it refers to. -/
inductive ColumnType where
  | atomic (tag : Tag)
  | reference (table : QualifiedName)
deriving DecidableEq, Repr

structure Column where
  name : String
  type : ColumnType
  role : ColumnRole := .value
  placement : Placement := .none
  isUnique : Bool := false
deriving DecidableEq, Repr

def ColumnRole.name : ColumnRole → String
  | key => "Key"
  | value => "Value"
  | foreignKey => "ForeignKey"

def ColumnType.text : ColumnType → String
  | atomic tag => tag.token
  | reference table => table.text

namespace Column

def reference? (c : Column) : Option QualifiedName :=
  match c.type with
  | .reference table => some table
  | .atomic _ => none

def isForeignKey (c : Column) : Bool := c.reference?.isSome

end Column

/-- The qualified name of a record's table.  A marker wins over the default even when it is empty,
and an empty namespace is none. -/
def Record.qualifiedName {ρ : Type} (config : Config) (r : Record ρ) :
    Except Failure QualifiedName := do
  let base := r.tableName.getD (camelCase r.ident)
  (checkName .table config.reserved.tables base).mapError (.tableName r.ident base)
  match (r.marker.or config.defaultNamespace).filter (· ≠ "") with
  | none => return { space := none, base := base }
  | some space =>
    (checkNamespace space).mapError (.tableName r.ident space)
    return { space := some space, base := base }

namespace Field

variable {ρ : Type}

def columnName (f : Field ρ) : String := camelCase f.ident

/-- The placement of a field's column: at most one, and only on an atomic column that is neither a
foreign key nor unique. -/
def placement (f : Field ρ) : Except PlacementFault Placement :=
  match f.placements with
  | [] => .ok .none
  | [p] =>
    if f.target?.isSome then .error (.onForeignKey p)
    else match f.type with
      | .unsupported type => .error (.onCompound p type)
      | .primitive _ => if f.isUnique then .error (.withUnique p) else .ok p
  | _ => .error .several

def tag (record : String) (f : Field ρ) : Except Failure Tag :=
  match f.type with
  | .unsupported type => .error (.unsupportedType record f.columnName type)
  | .primitive p =>
    match f.overrides with
    | [] => .ok (p.tag none)
    | [o] =>
      if p.accepts o then .ok (p.tag (some o))
      else .error (.override record f.columnName (.inapplicable o p))
    | _ => .error (.override record f.columnName .several)

/-- The role of a field's column: a key wins over a foreign key. -/
def role (f : Field ρ) : ColumnRole :=
  if f.isKey then .key else if f.target?.isSome then .foreignKey else .value

def columnType (catalog : Catalog) (config : Config) (record : String) (f : Field RecordId) :
    Except Failure ColumnType :=
  match f.target? with
  | none => (f.tag record).map .atomic
  | some target =>
    if f.overrides.isEmpty then ((catalog target).qualifiedName config).map .reference
    else .error (.override record f.columnName .onForeignKey)

def column (catalog : Catalog) (config : Config) (record : String) (f : Field RecordId) :
    Except Failure Column := do
  let placement ← f.placement.mapError (.placement record f.columnName)
  (checkName .column config.reserved.columns f.columnName).mapError
    (.columnName record f.columnName)
  let type ← f.columnType catalog config record
  return { name := f.columnName, type := type, role := f.role, placement := placement,
           isUnique := f.isUnique }

/-- The columns of fields that follow columns with the names `taken`. -/
def columns (catalog : Catalog) (config : Config) (record : String) (taken : List String) :
    List (Field RecordId) → Except Failure (List Column)
  | [] => .ok []
  | f :: fs => do
    let c ← f.column catalog config record
    if c.name ∈ taken then throw (.columnName record c.name .duplicate)
    let cs ← columns catalog config record (c.name :: taken) fs
    return c :: cs

end Field

def Record.columns (catalog : Catalog) (config : Config) (r : Record RecordId) :
    Except Failure (List Column) :=
  Field.columns catalog config r.ident [] r.fields

end KdbSchema

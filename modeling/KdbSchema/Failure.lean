import KdbSchema.Naming.Basic
import KdbSchema.Primitive
import KdbSchema.Table.Name

/-!
# Why a compilation fails

Every failure ends the request that met it.  The causes are data; their wording stands in `message`
alone, and `kind` gives the short name that callers show.
-/

namespace KdbSchema

inductive PlacementFault where
  | several
  | onForeignKey (placement : Placement)
  | onCompound (placement : Placement) (type : String)
  | withUnique (placement : Placement)
deriving DecidableEq, Repr

inductive OverrideFault where
  | onForeignKey
  | several
  | inapplicable (override : Override) (type : Primitive)
deriving DecidableEq, Repr

inductive Failure where
  | columnName (record column : String) (reason : NameViolation)
  | tableName (record name : String) (reason : NameViolation)
  | placement (record column : String) (reason : PlacementFault)
  | unsupportedType (record column type : String)
  | override (record column : String) (reason : OverrideFault)
  /-- Tables that refer to each other in a circle; the first stands at the end again. -/
  | cycle (tables : List QualifiedName)
  | duplicateTable (name : QualifiedName) (first second : String)
deriving DecidableEq, Repr

def PlacementFault.message : PlacementFault → String
  | several => "more than one placement modifier"
  | onForeignKey p => p.name ++ " cannot apply to a foreign-key column"
  | onCompound p type => p.name ++ " cannot apply to non-atomic type '" ++ type ++ "'"
  | withUnique p => p.name ++ " cannot be combined with unique"

def OverrideFault.message : OverrideFault → String
  | onForeignKey => "type overrides cannot apply to a foreign-key column"
  | several => "more than one type override"
  | inapplicable o type => o.name ++ " override does not apply to " ++ type.name

namespace Failure

def kind : Failure → String
  | columnName .. => "InvalidColumnName"
  | tableName .. => "InvalidTableName"
  | placement .. => "InvalidPlacement"
  | unsupportedType .. => "UnsupportedType"
  | override .. => "InvalidOverride"
  | cycle .. => "CyclicSchema"
  | duplicateTable .. => "DuplicateTable"

def message : Failure → String
  | columnName record column reason =>
    "record '" ++ record ++ "': invalid column name '" ++ column ++ "': " ++ reason.message
  | tableName record name reason =>
    "record '" ++ record ++ "': invalid table name '" ++ name ++ "': " ++ reason.message
  | placement record column reason =>
    "record '" ++ record ++ "', column '" ++ column ++ "': invalid placement: " ++ reason.message
  | unsupportedType record column type =>
    "record '" ++ record ++ "', column '" ++ column ++ "': unsupported type '" ++ type ++ "'"
  | override record column reason =>
    "record '" ++ record ++ "', column '" ++ column ++ "': invalid type override: "
      ++ reason.message
  | cycle tables =>
    "foreign-key cycle: " ++ " -> ".intercalate (tables.map QualifiedName.text)
  | duplicateTable name first second =>
    "table '" ++ name.text ++ "' is declared by both '" ++ first ++ "' and '" ++ second ++ "'"

end Failure

end KdbSchema

/-!
# Semantic types and column tags

A field holds one of twelve semantic types.  Each maps to the tag of an empty q vector, and a few
accept an override that picks another tag.  A placement is the storage attribute of a column.
-/

namespace KdbSchema

/-- The semantic type of a field, independent of how any program stores it. -/
inductive Primitive where
  | bool
  | char
  | decimal
  | duration
  | float32
  | float64
  | int8
  | int16
  | int32
  | int64
  | text
  | timestamp
deriving DecidableEq, Ord, Repr

/-- A field-level wish for another tag than the default one of its type. -/
inductive Override where
  | date
  | time
  | string
deriving DecidableEq, Repr

/-- The storage attribute of a column. -/
inductive Placement where
  | none
  | sorted
  | parted
  | grouped
deriving DecidableEq, Repr

/-- The element type of an atomic q column. -/
inductive Tag where
  | boolean
  | char
  | byte
  | short
  | int
  | long
  | real
  | float
  | datetime
  | timespan
  | date
  | time
  | symbol
  | string
deriving DecidableEq, Repr

namespace Primitive

/-- Every semantic type, in ascending order. -/
def all : List Primitive :=
  [bool, char, decimal, duration, float32, float64, int8, int16, int32, int64, text, timestamp]

def name : Primitive → String
  | bool => "Bool"
  | char => "Char"
  | decimal => "Decimal"
  | duration => "Duration"
  | float32 => "Float32"
  | float64 => "Float64"
  | int8 => "Int8"
  | int16 => "Int16"
  | int32 => "Int32"
  | int64 => "Int64"
  | text => "Text"
  | timestamp => "Timestamp"

/-- Whether an override changes the tag of this type. -/
def accepts : Primitive → Override → Bool
  | timestamp, .date => true
  | timestamp, .time => true
  | duration, .time => true
  | text, .string => true
  | _, _ => false

def defaultTag : Primitive → Tag
  | bool => .boolean
  | char => .char
  | decimal => .float
  | duration => .timespan
  | float32 => .real
  | float64 => .float
  | int8 => .byte
  | int16 => .short
  | int32 => .int
  | int64 => .long
  | text => .symbol
  | timestamp => .datetime

/-- The tag under an optional override; an override that does not apply leaves the default. -/
def tag : Primitive → Option Override → Tag
  | timestamp, some .date => .date
  | timestamp, some .time => .time
  | duration, some .time => .time
  | text, some .string => .string
  | p, _ => p.defaultTag

end Primitive

def Override.name : Override → String
  | date => "Date"
  | time => "Time"
  | string => "String"

namespace Placement

/-- Every placement, the absent one first. -/
def all : List Placement := [none, sorted, parted, grouped]

def name : Placement → String
  | none => "None"
  | sorted => "Sorted"
  | parted => "Parted"
  | grouped => "Grouped"

def letter? : Placement → Option Char
  | none => .none
  | sorted => some 's'
  | parted => some 'p'
  | grouped => some 'g'

instance : Inhabited Placement := ⟨none⟩

end Placement

namespace Tag

def token : Tag → String
  | boolean => "boolean"
  | char => "char"
  | byte => "byte"
  | short => "short"
  | int => "int"
  | long => "long"
  | real => "real"
  | float => "float"
  | datetime => "datetime"
  | timespan => "timespan"
  | date => "date"
  | time => "time"
  | symbol => "symbol"
  | string => "string"

/-- A string column is a list of character lists and no typed vector. -/
def isCharList (t : Tag) : Bool := t = string

end Tag

end KdbSchema

import KdbSchema.Record

/-!
# Types of a declaration

Of a declared type only so much is kept as tells what a field holds: references, parentheses and
optional types are looked through, and a few names stand for a semantic type.  The text of a type
has no spaces.
-/

namespace KdbSchema.Source

inductive TypeExpr where
  /-- A reference; the mark holds its lifetime and whether it can be written through. -/
  | reference (mark : String) (target : TypeExpr)
  | parenthesised (inner : TypeExpr)
  /-- A type that something other than brackets holds together. -/
  | grouped (inner : TypeExpr)
  /-- A path whose last segment `name` has no arguments; `lead` is what stands before it. -/
  | named (lead name : String)
  /-- A path whose last segment has a type for its only argument. -/
  | applied (lead name opening : String) (argument : TypeExpr) (closing : String)
  /-- A path whose last segment has other arguments. -/
  | compound (lead name arguments : String)
  | other (written : String)
deriving DecidableEq, Repr

namespace TypeExpr

def text : TypeExpr → String
  | reference mark target => mark ++ target.text
  | parenthesised inner => "(" ++ inner.text ++ ")"
  | grouped inner => inner.text
  | named lead name => lead ++ name
  | applied lead name opening argument closing =>
    lead ++ name ++ opening ++ argument.text ++ closing
  | compound lead name arguments => lead ++ name ++ arguments
  | other written => written

def optionalName : String := "Option"

def primitive? : String → Option Primitive
  | "bool" => some .bool
  | "char" => some .char
  | "i8" | "u8" => some .int8
  | "i16" | "u16" => some .int16
  | "i32" | "u32" => some .int32
  | "i64" | "u64" | "isize" | "usize" => some .int64
  | "f32" => some .float32
  | "f64" => some .float64
  | "Decimal" => some .decimal
  | "DateTime" | "NaiveDateTime" | "OffsetDateTime" | "PrimitiveDateTime" => some .timestamp
  | "SystemTime" | "Timestamp" => some .timestamp
  | "Duration" | "TimeDelta" => some .duration
  | "String" | "str" => some .text
  | _ => none

def fieldType : TypeExpr → FieldType
  | reference _ target => target.fieldType
  | parenthesised inner => inner.fieldType
  | grouped inner => inner.fieldType
  | named lead name =>
    match primitive? name with
    | some p => .primitive p
    | none => .unsupported (lead ++ name)
  | applied lead name opening argument closing =>
    if name = optionalName then argument.fieldType
    else .unsupported (applied lead name opening argument closing).text
  | compound lead name arguments => .unsupported (lead ++ name ++ arguments)
  | other written => .unsupported written

def isOptional : TypeExpr → Bool
  | reference _ target => target.isOptional
  | parenthesised inner => inner.isOptional
  | grouped inner => inner.isOptional
  | named _ name => name = optionalName
  | applied _ name _ _ _ => name = optionalName
  | compound _ name _ => name = optionalName
  | other _ => false

end TypeExpr

end KdbSchema.Source

import KdbSchema.Source.Item

/-!
# Faults of an item

What keeps a record from being derived from an item.  The causes are data; their wording stands in
`message` alone.

The attributes are read by a library outside the program; the program passes the faults on and adds
none.  The causes and their wording follow what that library documents.
-/

namespace KdbSchema.Source

inductive SettingFormat where
  | word
  | list
  | literal
deriving DecidableEq, Repr

inductive DerivationFault where
  | unknownName (name : String)
  | repeatedName (name : String)
  | unknownValue (value : String)
  /-- A value of a kind that the setting does not take. -/
  | unexpectedValue (form : ExpressionForm)
  | unexpectedFormat (format : SettingFormat)
  | assignedAttribute
  | unreadableAttribute
  /-- An item with another shape than named fields. -/
  | unexpectedShape (shape : ItemBody)
deriving DecidableEq, Repr

def ItemBody.shapeName : ItemBody → String
  | fields _ => "named fields"
  | positional 1 => "one unnamed field"
  | positional _ => "unnamed fields"
  | unit => "no fields"
  | enumeration => "enum"
  | union => "union"

def SettingFormat.name : SettingFormat → String
  | word => "word"
  | list => "list"
  | literal => "literal"

namespace DerivationFault

def message : DerivationFault → String
  | unknownName name => "Unknown field: " ++ quote name
  | repeatedName name => "Duplicate field " ++ quote name
  | unknownValue value => "Unknown value: " ++ quote value
  | unexpectedValue form => "Unexpected type " ++ quote form.kindName
  | unexpectedFormat format => "Unexpected meta-item format " ++ quote format.name
  | assignedAttribute => "Name-value arguments are not supported. Use #[qschema(...)]"
  | unreadableAttribute => "expected identifier or literal"
  | unexpectedShape shape =>
    let expected := match shape with
      | .enumeration | .union => "struct with named fields"
      | _ => "named fields"
    "Unsupported shape " ++ quote shape.shapeName ++ ". Expected " ++ expected ++ "."
where
  /-- A text between backticks. -/
  quote (s : String) : String := "`" ++ s ++ "`"

end DerivationFault

end KdbSchema.Source

import KdbSchema.Source.Angled
import KdbSchema.Source.Expression
import KdbSchema.Source.TypeExpr

/-!
# Items of a declaration

An item declares a type with a name, parameters and a body.  Attributes stand before the item and
before its fields; those named for this library hold settings, all others are ignored.
-/

namespace KdbSchema.Source

inductive SettingValue where
  /-- Nothing: the name stands alone. -/
  | word
  /-- Arguments in brackets. -/
  | list
  | expression (e : Expression)
deriving DecidableEq, Repr

inductive Setting where
  | named (name : String) (value : SettingValue)
  /-- A literal without a name. -/
  | literal
deriving DecidableEq, Repr

inductive Attribute where
  /-- Settings; an attribute without arguments has none. -/
  | settings (items : List Setting)
  /-- A value where settings should stand. -/
  | assigned
  /-- Arguments that are no settings. -/
  | unreadable
  /-- An attribute with another name. -/
  | foreign (path : String)
deriving DecidableEq, Repr

structure GenericParameter where
  isLifetime : Bool
  name : String
  /-- The parameter with its bounds and without a default. -/
  declaration : String
deriving DecidableEq, Repr

structure Generics where
  parameters : List GenericParameter := []
  /-- Whether a comma follows the last parameter. -/
  endsWithComma : Bool := false
  /-- The text of the conditions, empty if there are none. -/
  conditions : String := ""
deriving DecidableEq, Repr

structure ItemField where
  attributes : List Attribute
  name : Identifier
  type : TypeExpr
deriving DecidableEq, Repr

inductive ItemBody where
  | fields (fields : List ItemField)
  /-- Fields without names, by their number. -/
  | positional (count : Nat)
  | unit
  | enumeration
  | union
deriving DecidableEq, Repr

structure Item where
  attributes : List Attribute
  name : Identifier
  generics : Generics
  body : ItemBody
deriving DecidableEq, Repr

namespace Generics

/-- The parameters in angle brackets, each shown by `text`; nothing if there are none. -/
def angled (text : GenericParameter → String) (g : Generics) : String :=
  if g.parameters.isEmpty then ""
  else angledText (g.parameters.map fun p => ⟨p.isLifetime, text p⟩) g.endsWithComma

end Generics

end KdbSchema.Source

import KdbSchema.Source.Fault
import KdbSchema.Source.Grammar.Nesting

/-!
# Settings

The settings of an item or a field are taken together, whichever attributes they stand in, and each
name may be set once.  A value is checked where its name is first set, so that the faults of all
settings can be told in order; what is set can then be looked up by name.

Attributes are read by a library outside the program, which relies on it and does not contain it.
The rules follow what that library documents: how each kind of value is written, that a name is set
once, and in which order faults are told.  The program itself only lists the names of its settings
with the kind of value of each, in `fieldRules` and `itemRules`.
-/

namespace KdbSchema.Source

abbrev Checked := Except DerivationFault

namespace SettingValue

/-- The value of a flag.  Its name alone sets it; a truth value may also be written as a string. -/
def flag : SettingValue → Checked Bool
  | word => .ok true
  | list => .error (.unexpectedFormat .list)
  | expression e =>
    match e.form with
    | .literal ⟨.boolean b, _, _⟩ => .ok b
    | .literal ⟨.string "true", _, _⟩ => .ok true
    | .literal ⟨.string "false", _, _⟩ => .ok false
    | .literal ⟨.string s, _, _⟩ => .error (.unknownValue s)
    | form => .error (.unexpectedValue form)

def string : SettingValue → Checked String
  | word => .error (.unexpectedFormat .word)
  | list => .error (.unexpectedFormat .list)
  | expression e =>
    match e.form with
    | .literal ⟨.string s, _, _⟩ => .ok s
    | form => .error (.unexpectedValue form)

/-- The value of a setting that takes a string or, by its name alone, the empty one. -/
def marker : SettingValue → Checked String
  | word => .ok ""
  | v => v.string

/-- The value of a setting that takes a path, written as it stands or as a string. -/
def path : SettingValue → Checked String
  | word => .error (.unexpectedFormat .word)
  | list => .error (.unexpectedFormat .list)
  | expression e =>
    match e.form with
    | .path text => .ok text
    | .literal ⟨.string s, _, hasSuffix⟩ =>
      match if hasSuffix then none else Grammar.pathText? s with
      | some text => .ok text
      | none => .error (.unknownValue s)
    | form => .error (.unexpectedValue form)

end SettingValue

/-- A name with its value, or the fault of an argument that is no setting. -/
abbrev SettingEntry := Checked (String × SettingValue)

def Setting.entry : Setting → SettingEntry
  | named name value => .ok (name, value)
  | literal => .error (.unexpectedFormat .literal)

/-- The entries of an attribute; an attribute with another name has none. -/
def Attribute.entries : Attribute → List SettingEntry
  | settings items => items.map Setting.entry
  | assigned => [.error .assignedAttribute]
  | unreadable => [.error .unreadableAttribute]
  | foreign _ => []

def settingEntries (attributes : List Attribute) : List SettingEntry :=
  attributes.flatMap Attribute.entries

def Checked.fault? {α : Type} : Checked α → Option DerivationFault
  | .ok _ => none
  | .error fault => some fault

/-- For every known name, how its value is checked. -/
abbrev SettingRules := String → Option (SettingValue → Option DerivationFault)

def fieldRules : SettingRules
  | "rename" => some fun v => Checked.fault? v.string
  | "foreign_key" => some fun v => Checked.fault? v.path
  | "key" | "unique" | "sorted" | "parted" | "grouped" => some fun v => Checked.fault? v.flag
  | "date" | "time" | "string" => some fun v => Checked.fault? v.flag
  | _ => none

def itemRules : SettingRules
  | "table" => some fun v => Checked.fault? v.string
  | "namespace" => some fun v => Checked.fault? v.marker
  | _ => none

/-- The faults of entries, in order.  A name in `seen` has been set before; its value is not looked
at again. -/
def settingFaults (rules : SettingRules) (seen : List String) :
    List SettingEntry → List DerivationFault
  | [] => []
  | .error fault :: rest => fault :: settingFaults rules seen rest
  | .ok (name, value) :: rest =>
    match rules name with
    | none => .unknownName name :: settingFaults rules seen rest
    | some check =>
      if name ∈ seen then .repeatedName name :: settingFaults rules seen rest
      else (check value).toList ++ settingFaults rules (name :: seen) rest

def settingValue? (name : String) (entries : List SettingEntry) : Option SettingValue :=
  entries.findSome? fun
    | .ok (n, value) => if n = name then some value else none
    | .error _ => none

def isFlagSet (name : String) (entries : List SettingEntry) : Bool :=
  match (settingValue? name entries).map SettingValue.flag with
  | some (.ok b) => b
  | _ => false

def settingText? (read : SettingValue → Checked String) (name : String)
    (entries : List SettingEntry) : Option String :=
  (settingValue? name entries).bind fun v => (read v).toOption

end KdbSchema.Source

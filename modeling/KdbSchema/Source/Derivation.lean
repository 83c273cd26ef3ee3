import KdbSchema.Source.Grammar.Item
import KdbSchema.Source.Setting
import KdbSchema.Text.Words

/-!
# From an item to a record

A record is derived from an item with named fields.  All faults are collected, and a record is
derived where there are none.
-/

namespace KdbSchema.Source

/-- The name that an identifier declares: words joined by underscores are capitalised, anything else
stays as it is. -/
def Identifier.declaredName (i : Identifier) : String :=
  if i.name.contains '_' then Text.pascalCase i.name else i.name

/-- The modifiers that settings ask for, always in the same order. -/
def modifiersOf (entries : List SettingEntry) : List (Modifier String) :=
  let whenSet := fun (name : String) (m : Modifier String) =>
    if isFlagSet name entries then [m] else []
  whenSet "key" .key ++ whenSet "unique" .unique ++ whenSet "sorted" .sorted ++
    whenSet "parted" .parted ++ whenSet "grouped" .grouped ++
    ((settingText? SettingValue.path "foreign_key" entries).map Modifier.foreignKey).toList ++
    whenSet "date" .dateOverride ++ whenSet "time" .timeOverride ++
    whenSet "string" .stringOverride

namespace ItemField

def entries (f : ItemField) : List SettingEntry := settingEntries f.attributes

def faults (f : ItemField) : List DerivationFault := settingFaults fieldRules [] f.entries

def field (f : ItemField) : Field String where
  ident := (settingText? SettingValue.string "rename" f.entries).getD f.name.declaredName
  type := f.type.fieldType
  isOptional := f.type.isOptional
  modifiers := modifiersOf f.entries

end ItemField

namespace ItemBody

def namedFields : ItemBody → List ItemField
  | fields fs => fs
  | _ => []

def faults : ItemBody → List DerivationFault
  | fields fs => fs.flatMap ItemField.faults
  | body => [.unexpectedShape body]

end ItemBody

structure Derived where
  /-- The record; it points to others by their paths. -/
  record : Record String
  /-- The head of the block that gives the item its description, without spaces. -/
  header : String
deriving Repr

namespace Item

def entries (x : Item) : List SettingEntry := settingEntries x.attributes

/-- The faults of an item, those of its own settings first. -/
def faults (x : Item) : List DerivationFault :=
  settingFaults itemRules [] x.entries ++ x.body.faults

def record (x : Item) : Record String where
  ident := x.name.spelling
  tableName := settingText? SettingValue.string "table" x.entries
  marker := settingText? SettingValue.marker "namespace" x.entries
  fields := x.body.namedFields.map ItemField.field

/-- The head of the block that gives an item its description: parameters are declared with their
bounds and applied by their names. -/
def header (x : Item) : String :=
  "impl" ++ x.generics.angled GenericParameter.declaration ++ "::qschema::node::Recordfor" ++
    x.name.spelling ++ x.generics.angled GenericParameter.name ++ x.generics.conditions

end Item

inductive DerivationError where
  /-- The text does not hold exactly one item. -/
  | notAnItem
  | faults (first : DerivationFault) (others : List DerivationFault)
deriving Repr

/-- What is derived from an item, or all its faults. -/
def Item.derive (x : Item) : Except DerivationError Derived :=
  match x.faults with
  | [] => .ok { record := x.record, header := x.header }
  | first :: others => .error (.faults first others)

def deriveText (s : String) : Except DerivationError Derived :=
  match Item.ofText? s with
  | some x => x.derive
  | none => .error .notAnItem

/-- The text of all faults, one to a line; a text that holds no item has none. -/
def DerivationError.message? : DerivationError → Option String
  | notAnItem => none
  | faults first others =>
    some ("\n".intercalate ((first :: others).map DerivationFault.message))

end KdbSchema.Source

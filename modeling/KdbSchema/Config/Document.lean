import KdbSchema.Config.Basic
import KdbSchema.Decimal.Shortest
import KdbSchema.Naming.Basic
import KdbSchema.Text.Quoted
import KdbSchema.Toml.Document

/-!
# Configuration documents

A configuration is read from a TOML document with the settings `default_namespace`,
`unique_attribute` and `reserved`; a setting that is missing keeps its default.  The settings are
looked at in the order of their keys, so the first fault in that order is told.  The reserved words
may also be written as an array of their lists.  A default namespace is checked last.

Everything up to the last check stands for code outside the program, a library of TOML and the
reader generated for the settings.  The order in which settings are looked at, the forms in which
they may be written and the wording of faults follow what these document.  The check of the
namespace is the program's own.
-/

namespace KdbSchema

/-- What a setting holds in place of what it should. -/
inductive SettingFault where
  | unknownSetting (key : String)
  | unknownWordList (key : String)
  | mismatch (found expected : String)
  | integerOverflow
  | floatOverflow
deriving DecidableEq, Repr

inductive ReadFault where
  | missing
  | notText
deriving DecidableEq, Repr

inductive ConfigError where
  | unreadable (path : String) (reason : ReadFault)
  | malformed
  | setting (fault : SettingFault)
  | invalidNamespace (name : String)
deriving DecidableEq, Repr

def SettingFault.message : SettingFault → String
  | unknownSetting key =>
    "unknown field `" ++ key ++
      "`, expected one of `default_namespace`, `unique_attribute`, `reserved`"
  | unknownWordList key => "unknown field `" ++ key ++ "`, expected `columns` or `tables`"
  | mismatch found expected => "invalid type: " ++ found ++ ", expected " ++ expected
  | integerOverflow => "integer number overflowed"
  | floatOverflow => "floating-point number overflowed"

def ReadFault.message : ReadFault → String
  | missing => "No such file or directory (os error 2)"
  | notText => "stream did not contain valid UTF-8"

namespace ConfigError

def kind : ConfigError → String
  | unreadable .. => "Read"
  | malformed => "Parse"
  | setting _ => "Parse"
  | invalidNamespace _ => "InvalidNamespace"

/-- The text of an error; what is wrong with a malformed document is not told. -/
def message? : ConfigError → Option String
  | unreadable path reason => some ("failed to read config '" ++ path ++ "': " ++ reason.message)
  | malformed => none
  | setting fault => some fault.message
  | invalidNamespace name => some ("invalid default namespace '" ++ name ++ "'")

end ConfigError

namespace Toml

/-- One more than the greatest signed number of 128 bits. -/
def signedLimit : Int := 0x80000000000000000000000000000000

/-- An integer of at most 64 bits is called by its digits; a longer one also by its width. -/
def describeInteger (n : Int) : Except SettingFault String :=
  if -0x8000000000000000 ≤ n ∧ n < 0x10000000000000000 then .ok ("integer `" ++ toString n ++ "`")
  else if -signedLimit ≤ n ∧ n < signedLimit then
    .ok ("integer `" ++ toString n ++ "` as i128")
  else if 0 ≤ n ∧ n < 2 * signedLimit then
    .ok ("integer `" ++ toString n ++ "` as u128")
  else .error .integerOverflow

/-- The binary number nearest to a decimal, by its magnitude; decimals far beyond either end of the
range need no arithmetic. -/
def magnitude (digits : Nat) (exponent : Int) : Float :=
  let places := (Nat.repr digits).length + exponent
  if digits = 0 ∨ places < -400 then 0
  else if 400 < places then Float.ofScientific 1 false 400
  else Float.ofScientific digits (exponent < 0) exponent.natAbs

/-- A float is called by its shortest decimal. -/
def describeFloat : FloatValue → Except SettingFault String
  | .finite isNegative digits exponent =>
    let x := magnitude digits exponent
    if x.isFinite then
      .ok ("floating point `" ++ (if isNegative then "-" else "") ++ Decimal.magnitudeText x ++ "`")
    else .error .floatOverflow
  | .infinite isNegative => .ok ("floating point `" ++ (if isNegative then "-" else "") ++ "inf`")
  | .nan => .ok "floating point `NaN`"

def Value.describe : Value → Except SettingFault String
  | .string text => .ok ("string " ++ Text.quoted text)
  | .integer n => describeInteger n
  | .float x => describeFloat x
  | .boolean b => .ok ("boolean `" ++ toString b ++ "`")
  | .moment => .ok "map"
  | .array .. => .ok "sequence"
  | .table .. => .ok "map"

def Value.mismatch {α : Type} (expected : String) (v : Value) : Except SettingFault α := do
  throw (.mismatch (← v.describe) expected)

def Value.asString : Value → Except SettingFault String
  | .string text => .ok text
  | v => v.mismatch "a string"

def Value.asBool : Value → Except SettingFault Bool
  | .boolean b => .ok b
  | v => v.mismatch "a boolean"

def Value.asWords : Value → Except SettingFault (List String)
  | .array _ items => items.mapM Value.asString
  | v => v.mismatch "a sequence"

def sortedEntries (entries : Entries) : Entries := entries.mergeSort fun a b => a.1 ≤ b.1

/-- The key under which a date or a time presents itself as a table. -/
def momentKey : String := "$__toml_private_datetime"

def Value.asReserved : Value → Except SettingFault ReservedWords
  | .table _ entries =>
    (sortedEntries entries).foldlM
      (fun words (key, v) =>
        match key with
        | "columns" => do return { words with columns := ← v.asWords }
        | "tables" => do return { words with tables := ← v.asWords }
        | _ => throw (.unknownWordList key))
      {}
  | .array _ [] => .ok {}
  | .array _ [columns] => do return { columns := ← columns.asWords }
  | .array _ (columns :: tables :: _) => do
    return { columns := ← columns.asWords, tables := ← tables.asWords }
  | .moment => .error (.unknownWordList momentKey)
  | v => v.mismatch "struct ReservedConfig"

end Toml

namespace Config

def set (c : Config) (key : String) (v : Toml.Value) : Except SettingFault Config :=
  match key with
  | "default_namespace" => do return { c with defaultNamespace := some (← v.asString) }
  | "unique_attribute" => do return { c with uniqueAttribute := ← v.asBool }
  | "reserved" => do return { c with reserved := ← v.asReserved }
  | _ => throw (.unknownSetting key)

def ofEntries (entries : Toml.Entries) : Except SettingFault Config :=
  (Toml.sortedEntries entries).foldlM (fun c (key, v) => c.set key v) {}

/-- Checks the default namespace; the empty one is fine. -/
def check (c : Config) : Except ConfigError Config :=
  match c.defaultNamespace with
  | none => .ok c
  | some name =>
    if name = "" then .ok c
    else match checkNamespace name with
      | .ok _ => .ok c
      | .error _ => .error (.invalidNamespace name)

/-- Checks what was read last, whatever the documents are and whoever reads them. -/
def readChecked {Document : Type} (read : Document → Except ConfigError Config)
    (document : Document) : Except ConfigError Config :=
  read document >>= check

/-- The settings of a TOML document; their namespace may be any text. -/
def readToml (text : String) : Except ConfigError Config :=
  match Toml.parse? text with
  | none => .error .malformed
  | some entries => (ofEntries entries).mapError .setting

def ofToml (text : String) : Except ConfigError Config := readChecked readToml text

def ofBytes (path : String) (bytes : ByteArray) : Except ConfigError Config :=
  match String.fromUTF8? bytes with
  | none => .error (.unreadable path .notText)
  | some text => ofToml text

end Config

end KdbSchema

import KdbSchema.Primitive

/-!
# Record descriptions

A record is described by its identifier, an optional table name, an optional namespace marker and
its fields.  A field may point to another record.  What such a pointer is stays open in the type: a
freshly read description points by path, a description inside a catalog points by identity.  A
catalog gives every identity its record, so descriptions may refer to each other in cycles, and two
equal descriptions under two identities stay two records.
-/

namespace KdbSchema

inductive FieldType where
  | primitive (type : Primitive)
  /-- A type without a column form, kept by its name. -/
  | unsupported (name : String)
deriving DecidableEq, Repr

/-- A fact attached to a field; `ρ` is the kind of pointer to another record. -/
inductive Modifier (ρ : Type) where
  | key
  | unique
  | sorted
  | parted
  | grouped
  | foreignKey (target : ρ)
  | dateOverride
  | timeOverride
  | stringOverride
deriving DecidableEq, Repr

structure Field (ρ : Type) where
  /-- The declared name, before its first letter is lowered. -/
  ident : String
  type : FieldType
  /-- Whether the value may be absent; the column form does not depend on it. -/
  isOptional : Bool := false
  modifiers : List (Modifier ρ) := []
deriving DecidableEq, Repr

structure Record (ρ : Type) where
  ident : String
  /-- An explicit table name, used as it stands. -/
  tableName : Option String := none
  /-- An explicit namespace; the empty one is a marker too and means the root. -/
  marker : Option String := none
  fields : List (Field ρ) := []
deriving DecidableEq, Repr

/-- The identity of a record in a catalog. -/
abbrev RecordId := Nat

/-- All records that can be referred to, by identity. -/
abbrev Catalog := RecordId → Record RecordId

namespace Modifier

variable {ρ σ : Type}

def placement? : Modifier ρ → Option Placement
  | sorted => some .sorted
  | parted => some .parted
  | grouped => some .grouped
  | _ => none

def override? : Modifier ρ → Option Override
  | dateOverride => some .date
  | timeOverride => some .time
  | stringOverride => some .string
  | _ => none

def target? : Modifier ρ → Option ρ
  | foreignKey target => some target
  | _ => none

/-- Replaces the pointer, if there is one; fails where the replacement does. -/
def retarget? (f : ρ → Option σ) : Modifier ρ → Option (Modifier σ)
  | key => some key
  | unique => some unique
  | sorted => some sorted
  | parted => some parted
  | grouped => some grouped
  | foreignKey target => (f target).map foreignKey
  | dateOverride => some dateOverride
  | timeOverride => some timeOverride
  | stringOverride => some stringOverride

/-- The name of a modifier, with `ident` telling what to call a target. -/
def describe (ident : ρ → String) : Modifier ρ → String
  | key => "Key"
  | unique => "Unique"
  | sorted => "Sorted"
  | parted => "Parted"
  | grouped => "Grouped"
  | foreignKey target => "ForeignKey(RecordRef(" ++ ident target ++ "))"
  | dateOverride => "DateOverride"
  | timeOverride => "TimeOverride"
  | stringOverride => "StringOverride"

end Modifier

namespace Field

variable {ρ σ : Type}

def isKey (f : Field ρ) : Bool :=
  f.modifiers.any fun
    | .key => true
    | _ => false

def isUnique (f : Field ρ) : Bool :=
  f.modifiers.any fun
    | .unique => true
    | _ => false

/-- The first record that the field points to. -/
def target? (f : Field ρ) : Option ρ := f.modifiers.findSome? Modifier.target?

def placements (f : Field ρ) : List Placement := f.modifiers.filterMap Modifier.placement?

def overrides (f : Field ρ) : List Override := f.modifiers.filterMap Modifier.override?

def retarget? (g : ρ → Option σ) (f : Field ρ) : Option (Field σ) :=
  (f.modifiers.mapM (Modifier.retarget? g)).map fun modifiers =>
    { ident := f.ident, type := f.type, isOptional := f.isOptional, modifiers := modifiers }

end Field

def Record.retarget? {ρ σ : Type} (g : ρ → Option σ) (r : Record ρ) : Option (Record σ) :=
  (r.fields.mapM (Field.retarget? g)).map fun fields =>
    { ident := r.ident, tableName := r.tableName, marker := r.marker, fields := fields }

end KdbSchema

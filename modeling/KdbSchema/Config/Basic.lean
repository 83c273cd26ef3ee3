/-!
# Compiler configuration

The settings of a compilation: where unmarked records live, whether unique columns carry their
attribute, and which further words no name may take.
-/

namespace KdbSchema

/-- Words that are refused on top of the built-in ones. -/
structure ReservedWords where
  columns : List String := []
  tables : List String := []
deriving DecidableEq, Repr

structure Config where
  /-- The namespace of records that carry no marker; the empty one means the root. -/
  defaultNamespace : Option String := none
  /-- Whether a unique column is written with its attribute. -/
  uniqueAttribute : Bool := true
  reserved : ReservedWords := {}
deriving DecidableEq, Repr

end KdbSchema

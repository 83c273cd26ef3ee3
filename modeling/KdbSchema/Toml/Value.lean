/-!
# Values of a TOML document

A document is a table, that is, a list of pairs of key and value with pairwise different keys.  How
a table came about decides what may be added to it later, so it is kept with the table.

Documents are read by a library outside the program.  The modules on TOML follow the language as
that library documents it, and nothing else relies on how they do it.
-/

namespace KdbSchema.Toml

inductive TableOrigin where
  /-- Written between braces; nothing can be added. -/
  | inline
  /-- Opened by a header of its own. -/
  | header
  /-- Named on the way to another header; a header of its own may follow. -/
  | implied
  /-- Made by dotted keys; only further dotted keys can add to it. -/
  | dotted
deriving DecidableEq, Repr

inductive ArrayOrigin where
  /-- Written between brackets; nothing can be added. -/
  | literal
  /-- Made by headers, each of which adds a table. -/
  | headers
deriving DecidableEq, Repr

/-- A floating-point number as it is written. -/
inductive FloatValue where
  /-- The number `digits * 10 ^ exponent`, with its sign. -/
  | finite (isNegative : Bool) (digits : Nat) (exponent : Int)
  | infinite (isNegative : Bool)
  | nan
deriving DecidableEq, Repr

inductive Value where
  | string (text : String)
  | integer (n : Int)
  | float (x : FloatValue)
  | boolean (b : Bool)
  /-- A date, a time or both. -/
  | moment
  | array (origin : ArrayOrigin) (items : List Value)
  | table (origin : TableOrigin) (entries : List (String × Value))
deriving Repr

abbrev Entries := List (String × Value)

end KdbSchema.Toml

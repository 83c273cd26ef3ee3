import KdbSchema.Source.Grammar.Expression
import KdbSchema.Source.Grammar.TypeExpr
import KdbSchema.Source.Lexeme

/-!
# Types and expressions inside each other

The rules for types, bounds and expressions refer to those one level further down.  A text cannot
hold more levels than it has characters, since every level takes at least one token before the next,
so that many levels read all of it.

The rules themselves belong to the outside parser of declarations; only the count of levels is
peculiar to this reading of them.
-/

namespace KdbSchema.Source.Grammar

/-- The readers for what lies inside, down to a number of further levels. -/
def nested : Nat → Nested
  | 0 => { type := fun _ => failure, expression := fun _ => failure, bound := failure }
  | depth + 1 =>
    let i := nested depth
    { type := typeExpr i, expression := expression i, bound := bound i false true }

def readText? (r : Nested → TokenReader α) (s : String) : Option α := do
  let ts ← tokens? s
  Reader.whole (r (nested s.length)) ts

def pathText? (s : String) : Option String := readText? (fun i => Path.text <$> path i false) s

end KdbSchema.Source.Grammar

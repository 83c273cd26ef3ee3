/-!
# Sets of characters

A property of characters is kept as the ascending list of code points at which it changes.  A
character has the property when an odd number of these bounds lies at or below it.
-/

namespace KdbSchema

/-- A set of characters, given by the code points at which membership changes. -/
structure CharSet where
  bounds : List Nat

namespace CharSet

/-- Whether an odd number of the bounds is at most `n`; the bounds ascend. -/
def covers (n : Nat) : List Nat → Bool
  | [] => false
  | b :: bs => if b ≤ n then !covers n bs else false

def contains (s : CharSet) (c : Char) : Bool := covers c.toNat s.bounds

end CharSet

end KdbSchema

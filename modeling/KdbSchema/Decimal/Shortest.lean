/-!
# Shortest decimals of binary numbers

A finite binary number is written with the fewest decimal digits that read back to it, in positional
notation.  Every real that lies closer to the number than to its neighbours reads back to it; the
halfway points belong to it when its significand is even.  Of two decimals with the fewest digits
the nearer one is taken, and the greater one of two that are equally near.

The program leaves this to the standard way of showing a binary number, which documents this choice;
it is only used in the wording of faults.
-/

namespace KdbSchema.Decimal

/-- A positive binary number `m * 2 ^ q`. -/
structure Binary where
  m : Nat
  q : Int
  /-- The gap to the number below is half the gap to the one above. -/
  isNarrowBelow : Bool

def pow2 (n : Nat) : Nat := Nat.pow 2 n

def pow10 (n : Nat) : Nat := Nat.pow 10 n

/-- The number with the given bit pattern, the sign left out; for finite numbers. -/
def Binary.ofBits (bits : UInt64) : Binary :=
  let e := ((bits >>> 52) &&& 0x7FF).toNat
  let f := (bits &&& 0xFFFFFFFFFFFFF).toNat
  if e = 0 then { m := f, q := -1074, isNarrowBelow := false }
  else { m := pow2 52 + f, q := (e : Int) - 1075, isNarrowBelow := f = 0 ∧ 1 < e }

/-- Compares `a * 10 ^ i` with `n * 2 ^ j`. -/
def compareScaled (a : Nat) (i : Int) (n : Nat) (j : Int) : Ordering :=
  compare (a * pow10 i.toNat * pow2 (-j).toNat) (n * pow2 j.toNat * pow10 (-i).toNat)

def Binary.readsBack (x : Binary) (digits : Nat) (exponent : Int) : Bool :=
  let low := if x.isNarrowBelow then 4 * x.m - 1 else 4 * x.m - 2
  let includesEnds := x.m % 2 == 0
  let toLow := compareScaled digits exponent low (x.q - 2)
  let toHigh := compareScaled digits exponent (4 * x.m + 2) (x.q - 2)
  (toLow == .gt || (includesEnds && toLow == .eq)) &&
    (toHigh == .lt || (includesEnds && toHigh == .eq))

/-- The least `k` from `k` on with the number below `10 ^ k`, within `steps` steps. -/
def Binary.scaleFrom (x : Binary) : Nat → Int → Int
  | 0, k => k
  | steps + 1, k => if compareScaled 1 k x.m x.q == .gt then k else scaleFrom x steps (k + 1)

def Binary.floorAt (x : Binary) (i : Int) : Nat :=
  (x.m * pow2 x.q.toNat * pow10 (-i).toNat) / (pow2 (-x.q).toNat * pow10 i.toNat)

/-- The decimal for the number on the grid of multiples of `10 ^ i`, if one reads back. -/
def Binary.onGrid? (x : Binary) (i : Int) : Option Nat :=
  let below := x.floorAt i
  match x.readsBack below i, x.readsBack (below + 1) i with
  | true, true =>
    if compareScaled (2 * below + 1) i (2 * x.m) x.q == .gt then some below else some (below + 1)
  | true, false => some below
  | false, true => some (below + 1)
  | false, false => none

/-- The shortest decimal, as digits and exponent, trying `tries` grids downward from `10 ^ i`. -/
def Binary.shortestFrom (x : Binary) : Nat → Int → Nat × Int
  | 0, i => (x.floorAt i, i)
  | tries + 1, i =>
    match x.onGrid? i with
    | some digits => (digits, i)
    | none => shortestFrom x tries (i - 1)

/-- The shortest decimal of a positive number.  The first grid is that of the least power of ten above
the number, since that power itself may read back to it. -/
def Binary.shortest (x : Binary) : Nat × Int := x.shortestFrom 18 (x.scaleFrom 700 (-330))

/-- Positional notation of `digits * 10 ^ exponent`, with a point in any case. -/
def positional (digits : Nat) (exponent : Int) : String :=
  let ds := (Nat.repr digits).toList
  let zeros := fun n => List.replicate n '0'
  if 0 ≤ exponent then String.ofList (ds ++ zeros exponent.toNat ++ ['.', '0'])
  else
    let places := (-exponent).toNat
    let padded := zeros (places + 1 - ds.length) ++ ds
    let cut := padded.length - places
    String.ofList (padded.take cut ++ '.' :: padded.drop cut)

def magnitudeText (x : Float) : String :=
  let b := Binary.ofBits x.toBits
  if b.m = 0 then "0.0"
  else
    let (digits, exponent) := b.shortest
    positional digits exponent

end KdbSchema.Decimal

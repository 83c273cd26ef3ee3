import KdbSchema.Toml.Text
import KdbSchema.Toml.Value

/-!
# Numbers of a TOML document

Integers are decimal with an optional sign, or hexadecimal, octal or binary without one.  A decimal
integer has no leading zeros.  A float has a fraction, an exponent or both.  Underscores may separate
digits, one at a time.
-/

namespace KdbSchema.Toml

/-- Digits with single underscores between them, from a non-empty run of both. -/
def separated? (isDigit : Char → Bool) : List Char → Option (List Char)
  | [] => none
  | [d] => if isDigit d then some [d] else none
  | d :: '_' :: rest =>
    if isDigit d then (separated? isDigit rest).map (d :: ·) else none
  | d :: rest => if isDigit d then (separated? isDigit rest).map (d :: ·) else none

def decimalNumber (cs : List Char) : Nat :=
  cs.foldl (fun n c => 10 * n + (c.toNat - '0'.toNat)) 0

/-- Decimal digits without a leading zero. -/
def plainDigits? (cs : List Char) : Option (List Char) :=
  match separated? Char.isDigit cs with
  | some ('0' :: _ :: _) => none
  | digits => digits

def splitSign : List Char → Bool × List Char
  | '-' :: rest => (true, rest)
  | '+' :: rest => (false, rest)
  | cs => (false, cs)

/-- An integer in a base with a mark of its own. -/
def based? (base : Nat) (cs : List Char) : Option Nat := do
  let digits ← separated? (fun c => (Text.hexDigit? c).any (· < base)) cs
  digits.foldlM (fun n c => (Text.hexDigit? c).map fun d => base * n + d) 0

def integer? : List Char → Option Int
  | '0' :: 'x' :: cs => (based? 16 cs).map Int.ofNat
  | '0' :: 'o' :: cs => (based? 8 cs).map Int.ofNat
  | '0' :: 'b' :: cs => (based? 2 cs).map Int.ofNat
  | cs =>
    let (isNegative, digits) := splitSign cs
    (plainDigits? digits).map fun ds =>
      if isNegative then -Int.ofNat (decimalNumber ds) else Int.ofNat (decimalNumber ds)

def exponent? (cs : List Char) : Option Int :=
  let (isNegative, digits) := splitSign cs
  (separated? Char.isDigit digits).map fun ds =>
    if isNegative then -Int.ofNat (decimalNumber ds) else Int.ofNat (decimalNumber ds)

/-- The two parts of a text before and after the first character of a kind, the latter if there is
such a character. -/
def cutAt (p : Char → Bool) (cs : List Char) : List Char × Option (List Char) :=
  match cs.dropWhile fun c => !p c with
  | [] => (cs, none)
  | _ :: rest => (cs.takeWhile fun c => !p c, some rest)

def float? (cs : List Char) : Option FloatValue :=
  let (isNegative, body) := splitSign cs
  if body = ['i', 'n', 'f'] then some (.infinite isNegative)
  else if body = ['n', 'a', 'n'] then some .nan
  else
    let (mantissa, power) := cutAt (fun c => c = 'e' || c = 'E') body
    let (whole, fraction) := cutAt (· = '.') mantissa
    if power.isNone && fraction.isNone then none
    else do
      let exponent ← match power with
        | none => some 0
        | some ds => exponent? ds
      let ws ← plainDigits? whole
      let fs ← match fraction with
        | none => some []
        | some ds => separated? Char.isDigit ds
      return .finite isNegative (decimalNumber (ws ++ fs)) (exponent - fs.length)

end KdbSchema.Toml

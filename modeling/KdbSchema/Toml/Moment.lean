import KdbSchema.Toml.Number

/-!
# Dates and times of a TOML document

A date, a time of day with or without seconds, or both with a separator between them and possibly an
offset from universal time.  Only whether such a text is right matters here.
-/

namespace KdbSchema.Toml

def fixedDigits (n : Nat) : Reader Char Nat := fun s =>
  let ds := s.take n
  if ds.length = n ∧ ds.all Char.isDigit then some (decimalNumber ds, s.drop n) else none

def isLeapYear (y : Nat) : Bool := y % 4 = 0 && (y % 100 ≠ 0 || y % 400 = 0)

def daysIn (y m : Nat) : Nat :=
  if m = 2 then if isLeapYear y then 29 else 28
  else if m ∈ [4, 6, 9, 11] then 30
  else 31

def date : Reader Char Unit := do
  let y ← fixedDigits 4
  Reader.expect '-'
  let m ← fixedDigits 2
  Reader.expect '-'
  let d ← fixedDigits 2
  guard (1 ≤ m ∧ m ≤ 12 ∧ 1 ≤ d ∧ d ≤ daysIn y m)

def seconds : Reader Char Unit := do
  Reader.expect ':'
  let s ← fixedDigits 2
  guard (s ≤ 60)
  let _ ← Reader.maybe do
    Reader.expect '.'
    let _ ← Reader.span1 Char.isDigit
  return ()

def timeOfDay : Reader Char Unit := do
  let h ← fixedDigits 2
  Reader.expect ':'
  let m ← fixedDigits 2
  guard (h ≤ 23 ∧ m ≤ 59)
  match (← Reader.lookahead).head? with
  | some ':' => seconds
  | _ => return ()

/-- An offset from universal time, of at most a day. -/
def offset : Reader Char Unit := do
  match ← Reader.takeIf fun c => c = 'Z' || c = 'z' || c = '+' || c = '-' with
  | 'Z' => return ()
  | 'z' => return ()
  | _ =>
    let h ← fixedDigits 2
    Reader.expect ':'
    let m ← fixedDigits 2
    guard (m ≤ 59 ∧ 60 * h + m ≤ 1440)

def timeAfterDate : Reader Char Unit := do
  let _ ← Reader.takeIf fun c => c = 'T' || c = 't' || c = ' '
  timeOfDay
  let _ ← Reader.maybe offset
  return ()

/-- Whether a blank after a date belongs to the date, because a time follows. -/
def joinsTime : List Char → Bool
  | ' ' :: c :: _ => c.isDigit
  | _ => false

/-- Whether a text is a date, a time or both. -/
def isMoment (cs : List Char) : Bool :=
  ((Reader.whole date cs).isSome || (Reader.whole timeOfDay cs).isSome
    || (Reader.whole (do date; timeAfterDate) cs).isSome)

end KdbSchema.Toml

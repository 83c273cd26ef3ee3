/-!
# Readers

A reader takes items from the front of a list and answers with a value and the rest, or refuses.  A
refusal takes nothing, so a choice between readers tries each of them from the same place.
-/

namespace KdbSchema

/-- Reads a value from the front of a list of items. -/
abbrev Reader (τ : Type) := StateT (List τ) Option

namespace Reader

variable {τ α β : Type}

def takeIf (p : τ → Bool) : Reader τ τ
  | [] => none
  | t :: ts => if p t then some (t, ts) else none

def expect [DecidableEq τ] (t : τ) : Reader τ Unit
  | [] => none
  | u :: us => if u = t then some ((), us) else none

def expectAll [DecidableEq τ] : List τ → Reader τ Unit
  | [] => fun s => some ((), s)
  | t :: ts => fun s =>
    match expect t s with
    | none => none
    | some (_, rest) => expectAll ts rest

/-- The longest run of items that pass the test. -/
def span (p : τ → Bool) : Reader τ (List τ) := fun s => some (s.takeWhile p, s.dropWhile p)

/-- The longest run of items that pass the test; at least one has to. -/
def span1 (p : τ → Bool) : Reader τ (List τ) := fun s =>
  match s.takeWhile p with
  | [] => none
  | run => some (run, s.dropWhile p)

/-- What comes next, without taking it. -/
def lookahead : Reader τ (List τ) := fun s => some (s, s)

def finished : Reader τ Unit
  | [] => some ((), [])
  | _ :: _ => none

/-- Whether a reader would answer here; nothing is taken. -/
def sees (r : Reader τ α) : Reader τ Bool := fun s => some ((r s).isSome, s)

def maybe (r : Reader τ α) : Reader τ (Option α) := fun s =>
  match r s with
  | some (a, rest) => some (some a, rest)
  | none => some (none, s)

/-- Values of a reader, as long as it takes something. -/
def many (r : Reader τ α) : Reader τ (List α) := fun s =>
  match r s with
  | none => some ([], s)
  | some (a, rest) =>
    if rest.length < s.length then
      match many r rest with
      | none => none
      | some (as, rest') => some (a :: as, rest')
    else some ([a], rest)
termination_by s => s.length

/-- Values of a reader with separators between them, and whether one more separator follows. -/
def separated (separator : Reader τ β) (r : Reader τ α) : Reader τ (List α × Bool) := do
  match ← maybe r with
  | none => return ([], false)
  | some first =>
    let others ← many (do let _ ← separator; r)
    let last ← maybe separator
    return (first :: others, last.isSome)

/-- The value of a reader together with the items that it takes. -/
def captured (r : Reader τ α) : Reader τ (α × List τ) := fun s =>
  match r s with
  | some (a, rest) => some ((a, s.take (s.length - rest.length)), rest)
  | none => none

def whole (r : Reader τ α) (s : List τ) : Option α :=
  match r s with
  | some (a, []) => some a
  | _ => none

end Reader

end KdbSchema

import KdbSchema.Toml.Moment

/-!
# TOML documents

A document is a sequence of lines, each with a header, an assignment or nothing.  The lines are read
first and put together afterwards: a header names the table that the assignments after it belong to,
and dotted keys name tables on the way.  Refused are a key that is set twice, a table that is opened
twice, and additions to a table that is complete.
-/

namespace KdbSchema.Toml

def maxNesting : Nat := 80

/-- Adds a value at the end of a path of keys.  The tables on the way are made by dotted keys, and
the last of them has to be such a table. -/
def assign (value : Value) (last : String) : List String → Entries → Option Entries
  | [], entries =>
    if (entries.lookup last).isSome then none else some (entries ++ [(last, value)])
  | key :: keys, entries =>
    match entries.lookup key with
    | none =>
      (assign value last keys []).map fun inner => entries ++ [(key, .table .dotted inner)]
    | some (.table .dotted inner) =>
      (assign value last keys inner).map fun inner => put key (.table .dotted inner) entries
    | some (.table .implied inner) =>
      if keys.isEmpty then none
      else (assign value last keys inner).map fun inner => put key (.table .implied inner) entries
    | some (.array .headers items) =>
      match keys.isEmpty, items.getLast? with
      | false, some (.table origin inner) =>
        (assign value last keys inner).map fun inner =>
          put key (.array .headers (items.dropLast ++ [.table origin inner])) entries
      | _, _ => none
    | some _ => none
where
  /-- Replaces the value of a key. -/
  put (key : String) (value : Value) (entries : Entries) : Entries :=
    entries.map fun entry => if entry.1 = key then (key, value) else entry

/-- Changes the table at the end of a path of headers; tables that are missing on the way are made.
In an array of tables the way goes through the last one. -/
def changeAt (change : Entries → Option Entries) : List String → Entries → Option Entries
  | [], entries => change entries
  | key :: keys, entries =>
    match entries.lookup key with
    | none => (changeAt change keys []).map fun inner => entries ++ [(key, .table .implied inner)]
    | some (.table .inline _) => none
    | some (.table origin inner) =>
      (changeAt change keys inner).map fun inner => assign.put key (.table origin inner) entries
    | some (.array .headers items) =>
      match items.getLast? with
      | some (.table origin inner) =>
        (changeAt change keys inner).map fun inner =>
          assign.put key (.array .headers (items.dropLast ++ [.table origin inner])) entries
      | _ => none
    | some _ => none

def openTable (key : String) (entries : Entries) : Option Entries :=
  match entries.lookup key with
  | none => some (entries ++ [(key, .table .header [])])
  | some (.table .implied inner) => some (assign.put key (.table .header inner) entries)
  | some _ => none

def openArray (key : String) (entries : Entries) : Option Entries :=
  match entries.lookup key with
  | none => some (entries ++ [(key, .array .headers [.table .header []])])
  | some (.array .headers items) =>
    some (assign.put key (.array .headers (items ++ [.table .header []])) entries)
  | some _ => none

def inlineEntries (pairs : List (List String × String × Value)) : Option Entries :=
  pairs.foldlM (fun entries (keys, last, value) => assign value last keys entries) []

/-! ### Reading -/

def blanks : Reader Char Unit := fun s => some ((), s.dropWhile isBlank)

def comment : Reader Char Unit := do
  Reader.expect '#'
  let _ ← Reader.span isPlain

/-- The end of a line, with a comment before it, or the end of the text. -/
def lineEnd : Reader Char Unit := do
  blanks
  let _ ← Reader.maybe comment
  newline <|> Reader.finished

/-- Blanks, comments and line breaks. -/
def filler : Reader Char Unit := do
  blanks
  let _ ← Reader.many do
    let _ ← Reader.maybe comment
    newline
    blanks
  let _ ← Reader.maybe comment

def isBareKeyChar (c : Char) : Bool := c.isAlphanum || c = '_' || c = '-'

def keyPart : Reader Char String :=
  lineString <|> do return String.ofList (← Reader.span1 isBareKeyChar)

/-- The parts of a dotted key: those on the way, and the last. -/
def dottedKey : Reader Char (List String × String) := do
  let first ← keyPart
  let more ← Reader.many do
    blanks
    Reader.expect '.'
    blanks
    keyPart
  let parts := first :: more
  return (parts.dropLast, parts.getLast?.getD first)

def isScalarChar (c : Char) : Bool := c.isAlphanum || c ∈ ['_', '+', '-', '.', ':']

def scalarValue? (cs : List Char) : Option Value :=
  if cs = "true".toList then some (.boolean true)
  else if cs = "false".toList then some (.boolean false)
  else match integer? cs with
    | some n => some (.integer n)
    | none =>
      match float? cs with
      | some x => some (.float x)
      | none => if isMoment cs then some .moment else none

def scalar : Reader Char Value := do
  let cs ← Reader.span1 isScalarChar
  let rest ← Reader.lookahead
  let time ←
    if (Reader.whole date cs).isSome && joinsTime rest then do
      Reader.expect ' '
      let ts ← Reader.span1 isScalarChar
      pure (' ' :: ts)
    else pure []
  match scalarValue? (cs ++ time) with
  | some v => return v
  | none => failure

/-- Items with commas between them and possibly after the last, up to a closing bracket.  Blanks,
comments and line breaks may stand anywhere between. -/
def listOf {α : Type} (item : Reader Char α) (close : Char) : Reader Char (List α) := do
  filler
  match ← Reader.maybe item with
  | none =>
    Reader.expect close
    return []
  | some first =>
    filler
    let more ← Reader.many do
      Reader.expect ','
      filler
      let next ← item
      filler
      return next
    let _ ← Reader.maybe do
      Reader.expect ','
      filler
    Reader.expect close
    return first :: more

/-- A value inside `depth` further levels of nesting. -/
def value : (depth : Nat) → Reader Char Value
  | 0 => (Value.string <$> string) <|> scalar
  | depth + 1 => do
    match (← Reader.lookahead).head? with
    | some '[' =>
      Reader.expect '['
      return .array .literal (← listOf (value depth) ']')
    | some '\x7b' =>
      Reader.expect '\x7b'
      let pairs ← listOf
        (do
          let (keys, last) ← dottedKey
          blanks
          Reader.expect '='
          blanks
          return (keys, last, ← value depth))
        '\x7d'
      match inlineEntries pairs with
      | some entries => return .table .inline entries
      | none => failure
    | _ => (Value.string <$> string) <|> scalar

inductive Line where
  | blank
  | header (keys : List String) (last : String)
  | arrayHeader (keys : List String) (last : String)
  | assignment (keys : List String) (last : String) (value : Value)

def arrayHeader : Reader Char Line := do
  Reader.expect '['
  blanks
  let (keys, last) ← dottedKey
  blanks
  Reader.expectAll [']', ']']
  return .arrayHeader keys last

def header : Reader Char Line := do
  blanks
  let (keys, last) ← dottedKey
  blanks
  Reader.expect ']'
  return .header keys last

def assignment : Reader Char Line := do
  let (keys, last) ← dottedKey
  blanks
  Reader.expect '='
  blanks
  return .assignment keys last (← value maxNesting)

def line : Reader Char Line := do
  blanks
  let said ← match (← Reader.lookahead).head? with
    | some '[' => do
      Reader.expect '['
      match (← Reader.lookahead).head? with
      | some '[' => arrayHeader
      | _ => header
    | none => pure .blank
    | some c =>
      if c = '#' || c = '\n' || c = '\r' then pure .blank else assignment
  lineEnd
  return said

/-- The table that assignments go to, and what has been put together so far. -/
structure Draft where
  current : List String := []
  entries : Entries := []

def Draft.add (d : Draft) : Line → Option Draft
  | .blank => some d
  | .header keys last =>
    (changeAt (openTable last) keys d.entries).map fun entries =>
      { current := keys ++ [last], entries := entries }
  | .arrayHeader keys last =>
    (changeAt (openArray last) keys d.entries).map fun entries =>
      { current := keys ++ [last], entries := entries }
  | .assignment keys last value =>
    (changeAt (assign value last keys) d.current d.entries).map fun entries =>
      { d with entries := entries }

/-- The lines of a document; a mark of the byte order may stand in front. -/
def lines? (text : String) : Option (List Line) :=
  let cs := match text.toList with
    | '\ufeff' :: rest => rest
    | cs => cs
  Reader.whole (Reader.many line) cs

def parse? (text : String) : Option Entries := do
  let ls ← lines? text
  let draft ← ls.foldlM Draft.add {}
  return draft.entries

end KdbSchema.Toml

import KdbSchema.Source.Literal
import KdbSchema.Text.Quoted

/-!
# From text to tokens

A text is first cut into lexemes, of which brackets are nothing special, and these are then folded
into tokens.  Blanks and comments leave no lexeme, except that a documentation comment stands for an
attribute that holds its text.

The rules follow the outside library of tokens, as it documents them.
-/

namespace KdbSchema.Source

/-- A piece of a text before its brackets are paired. -/
inductive Lexeme where
  | opening (d : Delimiter)
  | closing (d : Delimiter)
  | leaf (t : Token)
deriving Repr

namespace Lexeme

/-- Whether a character is left out between lexemes; marks of direction count too. -/
def isBlank (c : Char) : Bool := Text.isBlank c || c = '\u200e' || c = '\u200f'

def restOfLine : Reader Char (List Char)
  | [] => some ([], [])
  | '\n' :: rest => some ([], '\n' :: rest)
  | '\r' :: '\n' :: rest => some ([], '\r' :: '\n' :: rest)
  | c :: rest => (restOfLine rest).map fun (cs, after) => (c :: cs, after)

/-- The rest of a block comment, inside `depth` further ones. -/
def blockBody (depth : Nat) : Reader Char (List Char)
  | '*' :: '/' :: rest =>
    match depth with
    | 0 => some ([], rest)
    | d + 1 => (blockBody d rest).map fun (cs, after) => ('*' :: '/' :: cs, after)
  | '/' :: '*' :: rest =>
    (blockBody (depth + 1) rest).map fun (cs, after) => ('/' :: '*' :: cs, after)
  | c :: rest => (blockBody depth rest).map fun (cs, after) => (c :: cs, after)
  | [] => none

/-- Whether every carriage return is part of a line break. -/
def hasWholeBreaks : List Char → Bool
  | [] => true
  | '\r' :: '\n' :: rest => hasWholeBreaks rest
  | c :: rest => c ≠ '\r' && hasWholeBreaks rest

def documentation (isInner : Bool) (comment : List Char) : Option (List Lexeme) :=
  if hasWholeBreaks comment then
    let content := Text.quoted (String.ofList comment)
    some ([.leaf (.sign '#' false)] ++ (if isInner then [.leaf (.sign '!' false)] else []) ++
      [.opening .bracket, .leaf (.identifier ⟨"doc", false⟩), .leaf (.sign '=' false),
       .leaf (.literal ⟨.string (String.ofList comment), content, false⟩), .closing .bracket])
  else none

/-- A comment.  Three slashes or a slash and two stars make documentation of what follows, four
slashes or three stars do not, and an exclamation mark makes documentation of what is around. -/
def comment : Reader Char (List Lexeme)
  | '/' :: '/' :: '/' :: '/' :: rest => (restOfLine rest).map fun (_, after) => ([], after)
  | '/' :: '/' :: '/' :: rest => line false rest
  | '/' :: '/' :: '!' :: rest => line true rest
  | '/' :: '/' :: rest => (restOfLine rest).map fun (_, after) => ([], after)
  | '/' :: '*' :: '*' :: '/' :: rest => some ([], rest)
  | '/' :: '*' :: '*' :: '*' :: rest => (blockBody 0 ('*' :: '*' :: rest)).map fun (_, after) =>
    ([], after)
  | '/' :: '*' :: '*' :: rest => block false rest
  | '/' :: '*' :: '!' :: rest => block true rest
  | '/' :: '*' :: rest => (blockBody 0 rest).map fun (_, after) => ([], after)
  | _ => none
where
  /-- Documentation up to the end of the line. -/
  line (isInner : Bool) (s : List Char) : Option (List Lexeme × List Char) := do
    let (text, after) ← restOfLine s
    return (← documentation isInner text, after)
  /-- Documentation up to the end of the comment. -/
  block (isInner : Bool) (s : List Char) : Option (List Lexeme × List Char) := do
    let (text, after) ← blockBody 0 s
    return (← documentation isInner text, after)

def startsComment : List Char → Bool
  | '/' :: '/' :: _ => true
  | '/' :: '*' :: _ => true
  | _ => false

def signs : List Char :=
  ['~', '!', '@', '#', '$', '%', '^', '&', '*', '-', '=', '+', '|', ';', ':', ',', '<', '.', '>',
   '/', '?', '\'']

def startsSign : List Char → Bool
  | [] => false
  | c :: rest => signs.contains c && !startsComment (c :: rest)

def name : Reader Char String
  | [] => none
  | c :: rest =>
    if Text.isIdentStart c then
      some (String.ofList (c :: rest.takeWhile Text.isIdentPart), rest.dropWhile Text.isIdentPart)
    else none

/-- An identifier; the words that stand for a place in a path, and the underscore, cannot be raw. -/
def identifier : Reader Char Identifier
  | 'r' :: '#' :: rest => do
    let (n, after) ← name rest
    if ["_", "super", "self", "Self", "crate"].contains n then none else some (⟨n, true⟩, after)
  | s => (name s).map fun (n, after) => (⟨n, false⟩, after)

/-- The beginnings of literals that no identifier may have; a literal that is not well formed is not
read as an identifier and a rest. -/
def literalStarts : List (List Char) :=
  [['r', '"'], ['r', '#', '"'], ['r', '#', '#'], ['b', '"'], ['b', '\''], ['b', 'r', '"'],
   ['b', 'r', '#'], ['c', '"'], ['c', 'r', '"'], ['c', 'r', '#']]

/-- An identifier where no literal starts. -/
def word : Reader Char Token := fun s =>
  if literalStarts.any fun p => p.isPrefixOf s then none
  else (identifier s).map fun (i, after) => (.identifier i, after)

/-- A sign.  An apostrophe is one only before an identifier, with which it makes a lifetime, and no
second apostrophe may follow. -/
def sign : Reader Char Token := fun s =>
  match s with
  | [] => none
  | c :: rest =>
    if !startsSign s then none
    else if c = '\'' then
      match identifier rest with
      | none => none
      | some (i, after) =>
        if after.head? = some '\'' || (after.head? = some '#' && !i.isRaw) then none
        else some (.sign c true, rest)
    else some (.sign c (startsSign rest), rest)

def single : Reader Char Token :=
  (Token.literal <$> Literal.read) <|> sign <|> word

def bracket? (c : Char) : Option Lexeme :=
  [Delimiter.parenthesis, .bracket, .brace].findSome? fun d =>
    if c = d.opening then some (.opening d) else if c = d.closing then some (.closing d) else none

/-- What comes next in a text: nothing for a blank or a comment, else one lexeme or those of a
documentation comment. -/
def next : Reader Char (List Lexeme)
  | [] => none
  | c :: rest =>
    if isBlank c then some ([], rest)
    else if startsComment (c :: rest) then comment (c :: rest)
    else
      match bracket? c with
      | some b => some ([b], rest)
      | none => (single (c :: rest)).map fun (t, after) => ([.leaf t], after)

/-- Folds lexemes into tokens.  `outer` holds, innermost first, the open brackets and what stands
before each, in reverse; `done` is what stands in the innermost one so far, in reverse. -/
def nest (outer : List (Delimiter × List Token)) (done : List Token) :
    List Lexeme → Option (List Token)
  | [] => if outer.isEmpty then some done.reverse else none
  | .leaf t :: rest => nest outer (t :: done) rest
  | .opening d :: rest => nest ((d, done) :: outer) [] rest
  | .closing d :: rest =>
    match outer with
    | [] => none
    | (e, before) :: outer' =>
      if d = e then nest outer' (.group d done.reverse :: before) rest else none

end Lexeme

/-- The tokens of a text; none if a character starts no token or brackets do not pair up. -/
def tokens? (s : String) : Option (List Token) := do
  let cs := match s.toList with
    | '\ufeff' :: rest => rest
    | cs => cs
  let lexemes ← Reader.whole (Reader.many Lexeme.next) cs
  Lexeme.nest [] [] lexemes.flatten

end KdbSchema.Source

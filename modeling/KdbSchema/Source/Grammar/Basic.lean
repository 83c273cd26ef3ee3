import KdbSchema.Reader
import KdbSchema.Source.Expression
import KdbSchema.Source.TypeExpr

/-!
# Readers of tokens

The grammar of declarations is a family of readers on tokens.  Most of them answer with the text of
what they take.  Types, bounds and expressions contain each other to any depth; `Nested` holds the
readers for what lies one level further down, so that each rule of the grammar is an ordinary
definition.

The parser of declarations is a library outside the program, which only sees what that parser
returns.  The readers here and in the modules of the grammar follow the rules which the library
documents, so that texts which it refuses are refused here as well.
-/

namespace KdbSchema.Source

abbrev TokenReader := Reader Token

namespace Grammar

/-- A bound, and whether it is more than a lifetime. -/
structure Bound where
  isTrait : Bool
  text : String

/-- The readers for what stands inside types and expressions. -/
structure Nested where
  /-- A type; the flag tells whether a plus may join it to further bounds. -/
  type : Bool → TokenReader TypeExpr
  /-- An expression; the flag tells whether braces may follow a path in it. -/
  expression : Bool → TokenReader Expression
  /-- A bound on an argument of a path. -/
  bound : TokenReader Bound

def sign (c : Char) : TokenReader Unit := do
  let _ ← Reader.takeIf fun
    | .sign d _ => d = c
    | _ => false

/-- A sign with another one right after it. -/
def jointSign (c : Char) : TokenReader Unit := do
  let _ ← Reader.takeIf fun
    | .sign d isJoint => d = c && isJoint
    | _ => false

/-- Signs without blanks between them. -/
def signs : List Char → TokenReader Unit
  | [] => pure ()
  | [c] => sign c
  | c :: cs => do
    jointSign c
    signs cs

def symbol (s : String) : TokenReader String := do
  signs s.toList
  return s

/-- Any identifier, keywords included. -/
def anyIdentifier : TokenReader Identifier
  | .identifier i :: rest => some (i, rest)
  | _ => none

def identifier : TokenReader Identifier
  | .identifier i :: rest => if i.isKeyword then none else some (i, rest)
  | _ => none

def word (w : String) : TokenReader String
  | .identifier i :: rest => if i = { name := w } then some (w, rest) else none
  | _ => none

def anyWord (ws : List String) : TokenReader String
  | .identifier i :: rest => if !i.isRaw && ws.contains i.name then some (i.name, rest) else none
  | _ => none

def lifetime : TokenReader String := do
  jointSign '\''
  let i ← anyIdentifier
  return "'" ++ i.spelling

/-- A group, by its content. -/
def group (d : Delimiter) : TokenReader (List Token)
  | .group e content :: rest => if e = d then some (content, rest) else none
  | _ => none

def anyGroup : TokenReader String
  | .group d content :: rest => some (d.enclose (textOf content), rest)
  | _ => none

/-- A group whose whole content a reader takes. -/
def within (d : Delimiter) (r : TokenReader α) : TokenReader α := do
  let content ← group d
  match Reader.whole r content with
  | some a => return a
  | none => failure

/-- A group whose text alone counts. -/
def verbatim (d : Delimiter) : TokenReader String := do
  let content ← group d
  return d.enclose (textOf content)

/-- A text where `start` shows that one follows, else the empty text. -/
def textIf (start : TokenReader α) (r : TokenReader String) : TokenReader String := do
  if ← Reader.sees start then r else return ""

def optionalSymbol (s : String) : TokenReader String := textIf (symbol s) (symbol s)

def optionalWord (w : String) : TokenReader String := textIf (word w) (word w)

/-- Texts with a separator between them and, if need be, behind the last one. -/
def joined (separator : String) (texts : List String × Bool) : String :=
  separator.intercalate texts.1 ++ if texts.2 then separator else ""

def commaSeparated (r : TokenReader α) : TokenReader (List α × Bool) :=
  Reader.separated (symbol ",") r

/-- A literal; a minus before a number belongs to it, and the two truth values are literals. -/
def literal : TokenReader Literal
  | .literal l :: rest => some (l, rest)
  | .identifier ⟨"true", false⟩ :: rest => some (⟨.boolean true, "true", false⟩, rest)
  | .identifier ⟨"false", false⟩ :: rest => some (⟨.boolean false, "false", false⟩, rest)
  | .sign '-' _ :: .literal l :: rest =>
    if l.kind = .integer || l.kind = .float then
      some ({ l with text := "-" ++ l.text }, rest)
    else none
  | _ => none

def placeWords : List String := ["super", "self", "Self", "crate"]

def plainPath : TokenReader String := do
  let lead ← optionalSymbol "::"
  let segment : TokenReader String :=
    anyWord placeWords <|> (Identifier.spelling <$> identifier)
  let (segments, hasMore) ← Reader.separated (symbol "::") segment
  if segments.isEmpty || hasMore then failure
  return lead ++ "::".intercalate segments

end Grammar

end KdbSchema.Source

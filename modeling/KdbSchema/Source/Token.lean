/-!
# Tokens of a declaration

The text of a declaration is a list of tokens, in which a pair of delimiters with all that stands
between them is one token.  A token knows its text without spaces; the texts of a list of tokens,
joined, are how a type or a header is shown.

How a text falls into tokens, and how tokens are shown, follows the library outside the program that
documents both.
-/

namespace KdbSchema.Source

/-- An identifier; a raw one is written with a marker that keeps it from being a keyword. -/
structure Identifier where
  name : String
  isRaw : Bool := false
deriving DecidableEq, Repr

namespace Identifier

def spelling (i : Identifier) : String := if i.isRaw then "r#" ++ i.name else i.name

/-- The words that no plain identifier may be. -/
def keywords : List String :=
  ["_", "abstract", "as", "async", "await", "become", "box", "break", "const", "continue", "crate",
   "do", "dyn", "else", "enum", "extern", "false", "final", "fn", "for", "if", "impl", "in", "let",
   "loop", "macro", "match", "mod", "move", "mut", "override", "priv", "pub", "ref", "return",
   "Self", "self", "static", "struct", "super", "trait", "true", "try", "type", "typeof", "unsafe",
   "unsized", "use", "virtual", "where", "while", "yield"]

def isKeyword (i : Identifier) : Bool := !i.isRaw && keywords.contains i.name

end Identifier

inductive LiteralKind where
  | string (value : String)
  | byteString
  | nulString
  | byte
  | character
  | integer
  | float
  | boolean (value : Bool)
deriving DecidableEq, Repr

structure Literal where
  kind : LiteralKind
  /-- The literal as it is written. -/
  text : String
  hasSuffix : Bool := false
deriving DecidableEq, Repr

inductive Delimiter where
  | parenthesis
  | bracket
  | brace
deriving DecidableEq, Repr

namespace Delimiter

def opening : Delimiter → Char
  | parenthesis => '('
  | bracket => '['
  | brace => '\x7b'

def closing : Delimiter → Char
  | parenthesis => ')'
  | bracket => ']'
  | brace => '\x7d'

def enclose (d : Delimiter) (s : String) : String :=
  String.singleton d.opening ++ s ++ String.singleton d.closing

end Delimiter

inductive Token where
  | identifier (i : Identifier)
  /-- A sign; it is joint if another sign follows without a blank. -/
  | sign (c : Char) (isJoint : Bool)
  | literal (l : Literal)
  | group (d : Delimiter) (content : List Token)
deriving Repr

def withoutSpaces (s : String) : String := String.ofList (s.toList.filter (· ≠ ' '))

mutual

def Token.text : Token → String
  | .identifier i => i.spelling
  | .sign c _ => String.singleton c
  | .literal l => withoutSpaces l.text
  | .group d content => d.enclose (textOf content)

def textOf : List Token → String
  | [] => ""
  | t :: ts => t.text ++ textOf ts

end

end KdbSchema.Source

import KdbSchema.Source.Token

/-!
# Expressions of a declaration

Expressions are never evaluated.  A literal and a path are kept, since a setting can have them for
its value; of any other expression the kind is kept, which is what a refused setting reports.
-/

namespace KdbSchema.Source

/-- The kinds of expressions other than literals and paths. -/
inductive ExpressionKind where
  | array
  | assign
  | async
  | await
  | binary
  | block
  | break
  | call
  | cast
  | closure
  | const
  | continue
  | field
  | forLoop
  | if
  | index
  | infer
  | let
  | loop
  | invocation
  | match
  | methodCall
  | parenthesised
  | range
  | reference
  | repeat
  | return
  | struct
  | attempt
  | attemptBlock
  | tuple
  | unary
  | unsafeBlock
  | while
  | yield
  | unknown
deriving DecidableEq, Repr

inductive ExpressionForm where
  | literal (l : Literal)
  /-- A path, by its text; a type that it starts from is left out. -/
  | path (text : String)
  | other (kind : ExpressionKind)
deriving DecidableEq, Repr

structure Expression where
  form : ExpressionForm
  /-- The text of the expression without spaces. -/
  text : String
deriving DecidableEq, Repr

def ExpressionKind.name : ExpressionKind → String
  | array => "array"
  | assign => "assign"
  | async => "async"
  | await => "await"
  | binary => "binary"
  | block => "block"
  | .break => "break"
  | call => "call"
  | cast => "cast"
  | closure => "closure"
  | const => "const"
  | .continue => "continue"
  | field => "field"
  | forLoop => "for_loop"
  | .if => "if"
  | index => "index"
  | infer => "infer"
  | .let => "let"
  | loop => "loop"
  | invocation => "macro"
  | .match => "match"
  | methodCall => "method_call"
  | parenthesised => "paren"
  | range => "range"
  | reference => "reference"
  | .repeat => "repeat"
  | .return => "return"
  | struct => "struct"
  | attempt => "try"
  | attemptBlock => "try_block"
  | tuple => "tuple"
  | unary => "unary"
  | unsafeBlock => "unsafe"
  | .while => "while"
  | yield => "yield"
  | unknown => "unknown"

def LiteralKind.name : LiteralKind → String
  | string _ => "string"
  | byteString => "byte string"
  | nulString => "unknown"
  | byte => "byte"
  | character => "char"
  | integer => "int"
  | float => "float"
  | boolean _ => "bool"

/-- The name of an expression's kind in messages; that of a literal is the name of its own kind. -/
def ExpressionForm.kindName : ExpressionForm → String
  | literal l => l.kind.name
  | path _ => "path"
  | other kind => kind.name

end KdbSchema.Source

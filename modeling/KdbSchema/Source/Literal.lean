import KdbSchema.Reader
import KdbSchema.Source.Token
import KdbSchema.Text.Blank
import KdbSchema.Text.Hexadecimal
import KdbSchema.Text.Identifier

/-!
# Literals

Readers for the literals of a declaration.  Quoted literals come in three alphabets: text, bytes and
text without the null character.  Each has a form with escapes and a raw form between a quote and as
many number signs as open it.  A number is a float if it has a point or an exponent, and every
literal may end in a suffix that looks like an identifier.

The forms are those that the outside parser of declarations documents.
-/

namespace KdbSchema.Source

/-- The characters that a quoted literal can hold. -/
inductive Alphabet where
  | text
  | bytes
  | nulFree
deriving DecidableEq, Repr

namespace Alphabet

def admits : Alphabet → Char → Bool
  | text, _ => true
  | bytes, c => c.toNat < 0x80
  | nulFree, c => c ≠ '\x00'

def admitsByte : Alphabet → Nat → Bool
  | text, n => n < 0x80
  | bytes, n => n < 0x100
  | nulFree, n => n ≠ 0 && n < 0x100

def admitsScalar : Alphabet → Char → Bool
  | text, _ => true
  | bytes, _ => false
  | nulFree, c => c ≠ '\x00'

end Alphabet

namespace Literal

/-- The hexadecimal digits of a code point up to the closing brace; blanks in the form of underscores
may stand after the first digit, and there are at most six digits. -/
def scalarDigits : List Char → List Char → Option (List Char × List Char)
  | _, [] => none
  | found, c :: rest =>
    if c = '\x7d' then if found.isEmpty then none else some (found.reverse, rest)
    else if c = '_' then if found.isEmpty then none else scalarDigits found rest
    else if (Text.hexDigit? c).isSome && found.length < 6 then scalarDigits (c :: found) rest
    else none

/-- The character that an escape stands for; the backslash is already taken. -/
def escape (a : Alphabet) : Reader Char Char
  | 'n' :: rest => some ('\n', rest)
  | 'r' :: rest => some ('\r', rest)
  | 't' :: rest => some ('\t', rest)
  | '\\' :: rest => some ('\\', rest)
  | '\'' :: rest => some ('\'', rest)
  | '"' :: rest => some ('"', rest)
  | '0' :: rest => if a.admits '\x00' then some ('\x00', rest) else none
  | 'x' :: hi :: lo :: rest => do
    let n ← Text.hexNumber? [hi, lo]
    if a.admitsByte n then some (Char.ofNat n, rest) else none
  | 'u' :: '\x7b' :: rest => do
    let (digits, after) ← scalarDigits [] rest
    let c ← (Text.hexNumber? digits).bind Text.scalar?
    if a.admitsScalar c then some (c, after) else none
  | _ => none

/-- The blanks after a line break that a backslash takes out; a carriage return has to be part of a
line break. -/
def skipBlanks : List Char → Option (List Char)
  | [] => some []
  | '\r' :: '\n' :: rest => skipBlanks rest
  | c :: rest =>
    if c = '\r' then none else if Text.isBlank c then skipBlanks rest else some (c :: rest)

/-- One piece of a literal with escapes: a character, or none where a backslash ends its line. -/
def piece (a : Alphabet) : Reader Char (List Char)
  | '"' :: _ => none
  | '\r' :: '\n' :: rest => some (['\n'], rest)
  | '\r' :: _ => none
  | '\\' :: '\n' :: rest => (skipBlanks rest).map fun after => ([], after)
  | '\\' :: '\r' :: '\n' :: rest => (skipBlanks rest).map fun after => ([], after)
  | '\\' :: rest => (escape a rest).map fun (c, after) => ([c], after)
  | c :: rest => if a.admits c then some ([c], rest) else none
  | [] => none

/-- The rest of a literal with escapes, from behind the opening quote. -/
def cooked (a : Alphabet) : Reader Char (List Char) := do
  let pieces ← Reader.many (piece a)
  Reader.expect '"'
  return pieces.flatten

/-- The rest of a raw literal, up to a quote and `n` number signs. -/
def rawBody (a : Alphabet) (n : Nat) : Reader Char (List Char)
  | [] => none
  | '\r' :: '\n' :: rest => (rawBody a n rest).map fun (cs, after) => ('\r' :: '\n' :: cs, after)
  | c :: rest =>
    if c = '\r' then none
    else if c = '"' && rest.take n = List.replicate n '#' then some ([], rest.drop n)
    else if a.admits c then (rawBody a n rest).map fun (cs, after) => (c :: cs, after)
    else none

/-- A raw literal, from behind the letter that marks it. -/
def raw (a : Alphabet) : Reader Char (List Char) := do
  let hashes ← Reader.span (· = '#')
  Reader.expect '"'
  if hashes.length < 256 then rawBody a hashes.length else failure

/-- A quoted literal, from behind the letter that tells its alphabet. -/
def quotedText (a : Alphabet) : Reader Char (List Char) :=
  (do Reader.expect '"'; cooked a) <|> (do Reader.expect 'r'; raw a)

/-- A single character between apostrophes. -/
def single (a : Alphabet) : Reader Char Unit := do
  Reader.expect '\''
  let _ ← (do Reader.expect '\\'; escape a) <|> Reader.takeIf fun c => c ≠ '\\' && a.admits c
  Reader.expect '\''

def suffix : Reader Char Bool := fun s =>
  match s with
  | c :: rest =>
    if Text.isIdentStart c then some (true, rest.dropWhile Text.isIdentPart) else some (false, s)
  | [] => some (false, s)

def wordEnd : Reader Char Unit := fun s =>
  match s with
  | c :: _ => if Text.isIdentPart c then none else some ((), s)
  | [] => some ((), s)

/-- A digit of a decimal number or an underscore. -/
def isDigitPart (c : Char) : Bool := c.isDigit || c = '_'

/-- An exponent: a sign, if any, and digits, with underscores anywhere after the letter. -/
def exponent : Reader Char Unit := do
  let _ ← Reader.takeIf fun c => c = 'e' || c = 'E'
  let _ ← Reader.span (· = '_')
  let _ ← Reader.maybe (Reader.takeIf fun c => c = '+' || c = '-')
  let _ ← Reader.span (· = '_')
  let _ ← Reader.takeIf Char.isDigit
  let _ ← Reader.span isDigitPart

/-- A number with a point or an exponent.  What follows the point must not make it a range or the
name of a member, and without a point the exponent has to be complete. -/
def floatBody : Reader Char Unit := do
  let _ ← Reader.takeIf Char.isDigit
  let _ ← Reader.span isDigitPart
  match ← Reader.maybe (Reader.expect '.') with
  | some _ =>
    let next ← Reader.lookahead
    if next.head?.any fun c => c = '.' || Text.isIdentStart c then failure
    let _ ← Reader.span isDigitPart
    let _ ← Reader.maybe exponent
  | none => exponent

/-- The digits of a whole number; a letter that is no digit of the base ends it, a decimal digit that
is none is refused. -/
def digits (base : Nat) (isEmpty : Bool) : List Char → Option (List Char)
  | [] => if isEmpty then none else some []
  | c :: rest =>
    if c = '_' then if isEmpty && base = 10 then none else digits base isEmpty rest
    else
      match Text.hexDigit? c with
      | some d =>
        if d < base then digits base false rest
        else if c.isDigit then none
        else if isEmpty then none
        else some (c :: rest)
      | none => if isEmpty then none else some (c :: rest)

def integerBody : Reader Char Unit
  | '0' :: 'x' :: rest => (digits 16 true rest).map fun after => ((), after)
  | '0' :: 'o' :: rest => (digits 8 true rest).map fun after => ((), after)
  | '0' :: 'b' :: rest => (digits 2 true rest).map fun after => ((), after)
  | s => (digits 10 true s).map fun after => ((), after)

/-- What a literal stands for; the suffix is still to come. -/
def bodyKind : Reader Char LiteralKind :=
  (do let cs ← quotedText .text; return .string (String.ofList cs)) <|>
  (do Reader.expect 'b'; let _ ← quotedText .bytes; return .byteString) <|>
  (do Reader.expect 'c'; let _ ← quotedText .nulFree; return .nulString) <|>
  (do Reader.expect 'b'; single .bytes; return .byte) <|>
  (do single .text; return .character)

def quotedLiteral : Reader Char (LiteralKind × Bool) := do
  let kind ← bodyKind
  let hasSuffix ← suffix
  return (kind, hasSuffix)

def number : Reader Char (LiteralKind × Bool) :=
  (do
    floatBody
    let hasSuffix ← suffix
    wordEnd
    return (.float, hasSuffix)) <|>
  (do
    integerBody
    let hasSuffix ← suffix
    wordEnd
    return (.integer, hasSuffix))

def read : Reader Char Literal := do
  let ((kind, hasSuffix), written) ← Reader.captured (quotedLiteral <|> number)
  return { kind := kind, text := String.ofList written, hasSuffix := hasSuffix }

end Literal

end KdbSchema.Source

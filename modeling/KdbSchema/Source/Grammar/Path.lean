import KdbSchema.Source.Angled
import KdbSchema.Source.Grammar.Basic

/-!
# Paths and bounds

A path is a list of segments, each of which may have arguments: in angle brackets, or in parentheses
with a result, as for functions.  A bound is a lifetime or a path with the marks that bounds can
have.

The rules are those that the outside parser of declarations documents.
-/

namespace KdbSchema.Source.Grammar

variable (i : Nested)

inductive PathArguments where
  | absent
  /-- A single type between angle brackets. -/
  | type (opening : String) (argument : TypeExpr) (closing : String)
  /-- Other arguments between angle brackets; `isEmpty` where nothing stands there. -/
  | angled (written : String) (isEmpty : Bool)
  /-- Arguments in parentheses. -/
  | function (written : String)

namespace PathArguments

def text : PathArguments → String
  | absent => ""
  | type opening argument closing => opening ++ argument.text ++ closing
  | angled written _ => written
  | function written => written

/-- Whether arguments in parentheses may still follow. -/
def isEmpty : PathArguments → Bool
  | absent => true
  | angled _ isEmpty => isEmpty
  | _ => false

end PathArguments

/-- A path, split before its last segment. -/
structure Path where
  /-- All that stands before the last segment. -/
  lead : String
  name : String
  arguments : PathArguments
  /-- Whether no segment has arguments. -/
  isPlain : Bool

namespace Path

def text (p : Path) : String := p.lead ++ p.name ++ p.arguments.text

def type (p : Path) : TypeExpr :=
  match p.arguments with
  | .absent => .named p.lead p.name
  | .type opening argument closing => .applied p.lead p.name opening argument closing
  | .angled written _ => .compound p.lead p.name written
  | .function written => .compound p.lead p.name written

end Path

def result : TokenReader String := do
  if ← Reader.sees (symbol "->") then
    let arrow ← symbol "->"
    let t ← i.type false
    return arrow ++ t.text
  else return ""

def functionArguments : TokenReader String := do
  let types ← within .parenthesis (commaSeparated (i.type true))
  let answer ← result i
  return "(" ++ joined "," (types.1.map TypeExpr.text, types.2) ++ ")" ++ answer

/-- Where arguments in parentheses start; two colons may stand before them. -/
def functionStart : TokenReader Unit := do
  let _ ← optionalSymbol "::"
  let _ ← group .parenthesis

/-- Adds arguments in parentheses to a path whose last segment has none. -/
def withFunctionArguments (p : Path) : TokenReader Path := do
  if p.arguments.isEmpty && (← Reader.sees functionStart) then
    let _ ← optionalSymbol "::"
    return { p with arguments := .function (← functionArguments i), isPlain := false }
  else return p

/-- Lifetimes that are quantified over, each with the lifetimes that bound it. -/
def binder : TokenReader String := do
  let start ← word "for"
  let opening ← symbol "<"
  let bounded : TokenReader String := do
    let l ← lifetime
    if ← Reader.sees (symbol ":") then
      let colon ← symbol ":"
      let bounds ← Reader.separated (symbol "+") lifetime
      return l ++ colon ++ joined "+" bounds
    else return l
  let entries ← commaSeparated (bounded <|> (Identifier.spelling <$> identifier))
  let closing ← symbol ">"
  return start ++ opening ++ joined "," entries ++ closing

def optionalBinder : TokenReader String := textIf (word "for") binder

def capture : TokenReader String := do
  let start ← word "use"
  let opening ← symbol "<"
  let name : TokenReader String :=
    lifetime <|> word "Self" <|> (Identifier.spelling <$> identifier)
  let names ← commaSeparated name
  let closing ← symbol ">"
  return start ++ opening ++ joined "," names ++ closing

def constantMark : TokenReader String := do
  if ← Reader.sees (group .bracket) then
    let w ← within .bracket (word "const")
    return "[" ++ w ++ "]"
  else optionalWord "const"

/-- Where arguments in angle brackets start.  In an expression they need two colons before them. -/
def angledStart (isExpression : Bool) : TokenReader Unit := do
  if ← Reader.sees (symbol "::") then
    let _ ← symbol "::"
    sign '<'
  else if isExpression || (← Reader.sees (symbol "<=")) then failure
  else sign '<'

def constantArgument : TokenReader String := do
  if ← Reader.sees literal then return withoutSpaces (← literal).text else verbatim .brace

def constantStart : TokenReader Unit := do
  let _ ← constantArgument

/-- Whether a name and what it equals, or its bounds, may follow this argument. -/
def canBeBound (p : TypeExpr) : Bool :=
  match p with
  | .named lead _ => lead.isEmpty
  | .applied lead _ _ _ _ => lead.isEmpty
  | .compound lead _ arguments => lead.isEmpty && !arguments.startsWith "("
  | _ => false

inductive GenericArgument where
  | lifetime (written : String)
  | type (t : TypeExpr)
  | other (written : String)

namespace GenericArgument

def text : GenericArgument → String
  | lifetime written => written
  | type t => t.text
  | other written => written

def entry (a : GenericArgument) : AngledEntry :=
  match a with
  | lifetime written => ⟨true, written⟩
  | _ => ⟨false, a.text⟩

end GenericArgument

def boundList (bound : TokenReader Bound) : TokenReader String := do
  let bounds ← Reader.separated (symbol "+") bound
  return joined "+" (bounds.1.map Bound.text, bounds.2)

/-- An argument that starts with a type: the type alone, or a name with what it equals or with its
bounds. -/
def typeArgument : TokenReader GenericArgument := do
  let t ← i.type true
  if canBeBound t then
    if ← Reader.sees (symbol "=") then
      let equals ← symbol "="
      if ← Reader.sees constantStart then
        return .other (t.text ++ equals ++ (← constantArgument))
      else return .other (t.text ++ equals ++ (← i.type true).text)
    else if ← Reader.sees (symbol ":") then
      let colon ← symbol ":"
      return .other (t.text ++ colon ++ (← boundList i.bound))
    else return .type t
  else return .type t

def genericArgument : TokenReader GenericArgument := do
  let startsBound : TokenReader Unit := do
    let _ ← lifetime
    sign '+'
  if (← Reader.sees lifetime) && !(← Reader.sees startsBound) then return .lifetime (← lifetime)
  else if ← Reader.sees constantStart then return .other (← constantArgument)
  else typeArgument i

def angledArguments : TokenReader PathArguments := do
  let opening := (← optionalSymbol "::") ++ (← symbol "<")
  let (entries, endsWithComma) ← commaSeparated (genericArgument i)
  let closing ← symbol ">"
  match entries with
  | [.type t] => return .type opening t (if endsWithComma then "," ++ closing else closing)
  | _ =>
    let list := angledText (entries.map GenericArgument.entry) endsWithComma
    return .angled (if opening = "<" then list else "::" ++ list) entries.isEmpty

/-- A segment of a path; a word for a place never has arguments in angle brackets. -/
def segment (isExpression : Bool) : TokenReader (String × PathArguments) := do
  let bare := anyWord ["super", "self", "crate", "try"]
  if ← Reader.sees bare then return (← bare, .absent)
  else
    let name ← word "Self" <|> (Identifier.spelling <$> identifier)
    if ← Reader.sees (angledStart isExpression) then return (name, ← angledArguments i)
    else return (name, .absent)

/-- Two colons that a further segment follows, not arguments in parentheses. -/
def segmentSeparator : TokenReader String := do
  let colons ← symbol "::"
  if ← Reader.sees (group .parenthesis) then failure else return colons

def segments (lead : String) (isExpression : Bool) : TokenReader Path := do
  let first ← segment i isExpression
  let others ← Reader.many (do
    let _ ← segmentSeparator
    segment i isExpression)
  if ← Reader.sees segmentSeparator then failure
  return ofSegments lead true first others
where
  /-- The path with the given segments. -/
  ofSegments (lead : String) (isPlain : Bool) (first : String × PathArguments) :
      List (String × PathArguments) → Path
    | [] => ⟨lead, first.1, first.2, isPlain && first.2 matches .absent⟩
    | next :: rest =>
      ofSegments (lead ++ first.1 ++ first.2.text ++ "::") (isPlain && first.2 matches .absent)
        next rest

def path (isExpression : Bool) : TokenReader Path := do
  let lead ← optionalSymbol "::"
  segments i lead isExpression

/-- A trait as a bound, with the marks before it. -/
def traitBound (allowsConstant : Bool) : TokenReader String := do
  let outer ← optionalBinder
  let constant ← constantMark
  if !constant.isEmpty && !allowsConstant then failure
  let mark ← optionalSymbol "?"
  let inner ← if outer.isEmpty && !mark.isEmpty then optionalBinder else pure ""
  let p ← withFunctionArguments i (← path i false)
  if constant.isEmpty then return mark ++ outer ++ inner ++ p.text
  else return outer ++ constant ++ mark ++ inner ++ p.text

def bound (allowsCapture allowsConstant : Bool) : TokenReader Bound := do
  if ← Reader.sees lifetime then return ⟨false, ← lifetime⟩
  else if ← Reader.sees (word "use") then
    if allowsCapture then return ⟨false, ← capture⟩ else failure
  else if ← Reader.sees (group .parenthesis) then
    let t ← within .parenthesis (traitBound i allowsConstant)
    return ⟨true, "(" ++ t ++ ")"⟩
  else return ⟨true, ← traitBound i allowsConstant⟩

/-- A path that starts from a type in angle brackets. -/
structure QualifiedPath where
  /-- The text in angle brackets. -/
  start : String
  /-- The text of the trait named there, if any. -/
  trait : String
  /-- The segments that follow, with the colons before them. -/
  rest : Path

def QualifiedPath.pathText (q : QualifiedPath) : String := q.trait ++ q.rest.text

def qualifiedPath (isExpression : Bool) : TokenReader QualifiedPath := do
  let opening ← symbol "<"
  let t ← i.type true
  let keyword ← optionalWord "as"
  let trait ← if keyword.isEmpty then pure "" else Path.text <$> path i false
  let closing ← symbol ">"
  let colons ← symbol "::"
  let rest ← segments i colons isExpression
  return ⟨opening ++ t.text ++ keyword ++ trait ++ closing, trait, rest⟩

end KdbSchema.Source.Grammar

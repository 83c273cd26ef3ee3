import KdbSchema.Source.Grammar.Path

/-!
# The grammar of types

What a type is shows at its first token.  A plus after a path, or after a path in parentheses, joins
it to further bounds where the place allows that.

The rules are those that the outside parser of declarations documents; what a type then means for a
field is decided by the program.
-/

namespace KdbSchema.Source.Grammar

variable (i : Nested)

/-- Further bounds after a plus sign; a plus may stand last if `isOpen` holds. -/
def furtherBounds (isOpen : Bool) : TokenReader String := do
  let more ← Reader.many (do
    let plus ← symbol "+"
    let b ← bound i false false
    return plus ++ b.text)
  let last ← optionalSymbol "+"
  if !isOpen && !last.isEmpty then failure
  return String.join more ++ last

/-- Bounds of which at least one is more than a lifetime; several only where a plus is allowed. -/
def traitBounds (allowsPlus allowsCapture allowsConstant : Bool) : TokenReader String := do
  let b := bound i allowsCapture allowsConstant
  let (bounds, hasMore) ←
    if allowsPlus then Reader.separated (symbol "+") b else (fun x => ([x], false)) <$> b
  if bounds.any Bound.isTrait then return joined "+" (bounds.map Bound.text, hasMore)
  else failure

def attributeText : TokenReader String := do
  let mark ← symbol "#"
  return mark ++ (← verbatim .bracket)

def argumentName (words : List String) : TokenReader String := do
  let name ← anyWord words <|> (Identifier.spelling <$> identifier)
  if ← Reader.sees (symbol "::") then failure
  let colon ← symbol ":"
  return name ++ colon

/-- An argument of a function type.  The first one may be the receiver, with or without a type. -/
def functionArgument (isFirst : Bool) : TokenReader String := do
  let attributes ← Reader.many attributeText
  let receiver : TokenReader String := do
    let m ← word "mut"
    let s ← word "self"
    return m ++ s
  let names := if isFirst then ["_", "self"] else ["_"]
  if isFirst && (← Reader.sees receiver) then
    let r ← receiver
    if ← Reader.sees (symbol ":") then
      let colon ← symbol ":"
      return String.join attributes ++ r ++ colon ++ (← i.type true).text
    else return String.join attributes ++ r
  else
    let name ← textIf (argumentName names) (argumentName names)
    return String.join attributes ++ name ++ (← i.type true).text

/-- The mark that any further arguments may follow, with an optional name and comma. -/
def variadic : TokenReader String := do
  let attributes ← Reader.many attributeText
  let name ← textIf (argumentName ["_"]) (argumentName ["_"])
  let dots ← symbol "..."
  let comma ← optionalSymbol ","
  return String.join attributes ++ name ++ dots ++ comma

def functionInputs : TokenReader String := do
  if ← Reader.sees variadic then
    return ← variadic
  match ← Reader.maybe (functionArgument i true) with
  | none => return ""
  | some first =>
    let others ← Reader.many (do
      let comma ← symbol ","
      if ← Reader.sees variadic then failure
      return comma ++ (← functionArgument i false))
    let comma ← optionalSymbol ","
    let last ← if comma.isEmpty then pure "" else textIf variadic variadic
    return first ++ String.join others ++ comma ++ last

def functionType (binder : String) : TokenReader TypeExpr := do
  let unsafety ← optionalWord "unsafe"
  let convention ← do
    if ← Reader.sees (word "extern") then
      let keyword ← word "extern"
      match ← Reader.maybe literal with
      | some l =>
        match l.kind with
        | .string _ => pure (keyword ++ withoutSpaces l.text)
        | _ => failure
      | none => pure keyword
    else pure ""
  let keyword ← word "fn"
  let inputs ← within .parenthesis (functionInputs i)
  let answer ← result i
  return .other (binder ++ unsafety ++ convention ++ keyword ++ "(" ++ inputs ++ ")" ++ answer)

/-- A path as a type; function arguments may be followed by further segments. -/
def pathWithFunctions : TokenReader Path := do
  let p ← withFunctionArguments i (← path i false)
  match p.arguments with
  | .function written =>
    if (written.endsWith ")") && (← Reader.sees segmentSeparator) then
      let colons ← segmentSeparator
      let rest ← segments i (p.text ++ colons) false
      withFunctionArguments i { rest with isPlain := false }
    else return p
  | _ => return p

/-- A type that starts with a path: the path, a call that is expanded to a type, or bounds. -/
def pathType (allowsPlus : Bool) (binder : String) : TokenReader TypeExpr := do
  if ← Reader.sees (symbol "<") then
    let q ← qualifiedPath i false
    let rest ← withFunctionArguments i q.rest
    return .other (q.start ++ rest.text)
  else
    let p ← pathWithFunctions i
    let isCall := (← Reader.sees (symbol "!")) && !(← Reader.sees (symbol "!="))
    if isCall && p.isPlain then
      let bang ← symbol "!"
      return .other (p.text ++ bang ++ (← anyGroup))
    else if allowsPlus && (← Reader.sees (symbol "+")) then
      return .other (binder ++ p.text ++ (← furtherBounds i true))
    else if binder.isEmpty then return p.type
    else return .other (binder ++ p.text)

def functionTypeStart : TokenReader String := anyWord ["fn", "unsafe", "extern"]

def pathStart : TokenReader String :=
  anyWord placeWords <|> (Identifier.spelling <$> identifier) <|> symbol "::" <|> symbol "<"

def boundType (allowsPlus : Bool) : TokenReader TypeExpr := do
  let b ← binder
  if ← Reader.sees functionTypeStart then functionType i b
  else if ← Reader.sees (symbol "::" <|> symbol "<") then failure
  else if ← Reader.sees pathStart then pathType i allowsPlus b
  else failure

inductive Parenthesised where
  /-- A list of types, by its text. -/
  | tuple (written : String)
  /-- Bounds, by their text. -/
  | bounds (written : String)
  /-- A bound with a mark, by its text; further bounds may follow outside. -/
  | marked (written : String)
  /-- A type; `isBound` tells whether it can be the first of several bounds. -/
  | type (t : TypeExpr) (isBound : Bool)

/-- A type in parentheses, and whether it can be the first of several bounds. -/
def innerType : TokenReader (TypeExpr × Bool) := do
  let functionStart : TokenReader Unit := do
    let _ ← binder
    let _ ← functionTypeStart
  if ← Reader.sees functionStart then return (← i.type true, false)
  else if ← Reader.sees (word "for") then
    let t ← boundType i false
    if ← Reader.sees (symbol "+") then
      return (.other (t.text ++ (← furtherBounds i true)), false)
    else return (t, true)
  else
    let t ← i.type true
    match t with
    | .named .. | .applied .. | .compound .. => return (t, true)
    | _ => return (t, false)

def parenthesisedContent : TokenReader Parenthesised := do
  if (← Reader.lookahead).isEmpty then return .tuple ""
  else if ← Reader.sees lifetime then return .bounds (← traitBounds i true false false)
  else if ← Reader.sees (symbol "?") then return .marked (← traitBound i false)
  else
    let (first, isBound) ← innerType i
    if ← Reader.sees (symbol ",") then
      let comma ← symbol ","
      let rest ← commaSeparated (i.type true)
      return .tuple (first.text ++ comma ++ joined "," (rest.1.map TypeExpr.text, rest.2))
    else return .type first isBound

def parenthesisedType (allowsPlus : Bool) : TokenReader TypeExpr := do
  match ← within .parenthesis (parenthesisedContent i) with
  | .tuple written => return .other ("(" ++ written ++ ")")
  | .bounds written => return .parenthesised (.other written)
  | .marked written => return .other ("(" ++ written ++ ")" ++ (← furtherBounds i false))
  | .type t isBound =>
    if allowsPlus && isBound && (← Reader.sees (symbol "+")) then
      return .other ("(" ++ t.text ++ ")" ++ (← furtherBounds i false))
    else return .parenthesised t

def sequenceContent : TokenReader String := do
  let t ← i.type true
  if ← Reader.sees (symbol ";") then
    let semicolon ← symbol ";"
    return t.text ++ semicolon ++ (← i.expression true).text
  else return t.text

def referenceMark : TokenReader String := do
  let start ← symbol "&"
  let l ← textIf lifetime lifetime
  return start ++ l ++ (← optionalWord "mut")

def typeExpr (allowsPlus : Bool) : TokenReader TypeExpr := do
  if ← Reader.sees (word "for") then boundType i allowsPlus
  else if ← Reader.sees (group .parenthesis) then parenthesisedType i allowsPlus
  else if ← Reader.sees functionTypeStart then functionType i ""
  else if ← Reader.sees pathStart then pathType i allowsPlus ""
  else if ← Reader.sees (word "dyn") then
    let keyword ← word "dyn"
    let star ← optionalSymbol "*"
    return .other (keyword ++ star ++ (← traitBounds i allowsPlus false false))
  else if ← Reader.sees (group .bracket) then
    return .other ("[" ++ (← within .bracket (sequenceContent i)) ++ "]")
  else if ← Reader.sees (symbol "*") then
    let star ← symbol "*"
    let access ← anyWord ["const", "mut"]
    return .other (star ++ access ++ (← i.type false).text)
  else if ← Reader.sees (symbol "&") then
    let mark ← referenceMark
    return .reference mark (← i.type false)
  else if ← Reader.sees (symbol "!=") then failure
  else if ← Reader.sees (symbol "!") then return .other (← symbol "!")
  else if ← Reader.sees (word "impl") then
    let keyword ← word "impl"
    return .other (keyword ++ (← traitBounds i allowsPlus true true))
  else if ← Reader.sees (word "_") then return .other (← word "_")
  else if ← Reader.sees lifetime then return .other (← traitBounds i true false false)
  else failure

end KdbSchema.Source.Grammar

import KdbSchema.Source.Grammar.Path

/-!
# The grammar of expressions

An expression is a row of operands with operators between them; an operand has signs before it and
calls, members and the like behind it.  Since only the kind of an expression is kept, the row is
read flat, and the loosest operator in it tells the kind.  What stands in braces is not looked into.

The operators, their strength and the kinds follow the outside parser of declarations, as it
documents them.
-/

namespace KdbSchema.Source.Grammar

variable (i : Nested)

/-- Operators between operands, from the loosest to the tightest. -/
inductive Operator where
  | assignment
  /-- An assignment that combines the old value with the new one. -/
  | combination
  | range
  | logical
  | comparison
  | arithmetic
  | cast
deriving DecidableEq

namespace Operator

/-- The kind of an expression whose loosest operator this is. -/
def kind : Operator → ExpressionKind
  | assignment => .assign
  | range => .range
  | cast => .cast
  | _ => .binary

/-- Comparisons do not chain; `isOpen` holds inside the right side of one. -/
def chainsWell (isOpen : Bool) : List Operator → Bool
  | [] => true
  | comparison :: rest => !isOpen && chainsWell true rest
  | arithmetic :: rest => chainsWell isOpen rest
  | cast :: rest => chainsWell isOpen rest
  | _ :: rest => chainsWell false rest

/-- The operator that tells the kind of a row: the first assignment of either form, else a range,
else any other operator but a cast, else a cast. -/
def loosest? (row : List Operator) : Option Operator :=
  row.find? (fun o => o = assignment || o = combination)
    |>.or (row.find? (· = range))
    |>.or (row.find? (· ≠ cast))
    |>.or row.head?

end Operator

def skipTo (stop : TokenReader α) : TokenReader Unit := do
  let _ ← Reader.many (do
    if ← Reader.sees stop then failure
    Reader.takeIf fun _ => true)

/-- An expression in braces, which is not looked into. -/
def block : TokenReader Unit := do
  let _ ← group .brace

def done (kind : ExpressionKind) (r : TokenReader α) : TokenReader ExpressionForm := do
  let _ ← r
  return .other kind

/-- The parameters of a closure, between bars. -/
def closureStart : TokenReader Unit := do
  let _ ← optionalBinder
  let _ ← optionalWord "const"
  let _ ← optionalWord "static"
  let _ ← optionalWord "async"
  let _ ← optionalWord "move"
  sign '|'

/-- A closure; with a result type its body is a block. -/
def closure (allowsStruct : Bool) : TokenReader Unit := do
  closureStart
  skipTo (sign '|')
  sign '|'
  if (← result i).isEmpty then
    let _ ← i.expression allowsStruct
  else block

/-- A path, a call that is expanded, or a record in braces. -/
def pathExpression (allowsStruct : Bool) : TokenReader ExpressionForm := do
  let isQualified ← Reader.sees (symbol "<")
  let (text, isPlain) ←
    if isQualified then (fun q => (q.pathText, false)) <$> qualifiedPath i true
    else (fun p => (p.text, p.isPlain)) <$> path i true
  if isPlain && (← Reader.sees (symbol "!")) && !(← Reader.sees (symbol "!=")) then
    done .invocation (do
      let _ ← symbol "!"
      anyGroup)
  else if allowsStruct && (← Reader.sees (group .brace)) then done .struct block
  else return .path text

def expressions : TokenReader (List Expression × Bool) := commaSeparated (i.expression true)

/-- What stands in the parentheses of an expression: one expression, or a list. -/
def parenthesisedExpression : TokenReader ExpressionForm := do
  let (es, hasComma) ← expressions i
  return .other (if es.length = 1 && !hasComma then .parenthesised else .tuple)

/-- What stands in the brackets of an expression: a list, or one expression and a count. -/
def bracketedExpression : TokenReader ExpressionForm := do
  let (es, hasComma) ← expressions i
  if es.length = 1 && !hasComma && (← Reader.sees (symbol ";")) then
    done .repeat (do
      let _ ← symbol ";"
      i.expression true)
  else return .other .array

/-- A loop, with its label taken. -/
def loopExpression : TokenReader ExpressionForm := do
  match ← anyWord ["loop", "while", "for"] with
  | "while" => done .while (do
    let _ ← i.expression false
    block)
  | "for" => done .forLoop (do
    skipTo (word "in")
    let _ ← word "in"
    let _ ← i.expression false
    block)
  | _ => done .loop block

def branches : TokenReader Unit := do
  block
  if ← Reader.sees (word "else") then
    let _ ← word "else"
    if ← Reader.sees (word "if") then
      let _ ← i.expression true
    else block

def keywordExpression (allowsStruct : Bool) : TokenReader ExpressionForm := do
  let operand : TokenReader Unit := do
    let _ ← Reader.maybe (i.expression allowsStruct)
  let label : TokenReader Unit := do
    let _ ← Reader.maybe lifetime
  let keywords := ["async", "try", "break", "continue", "return", "yield", "let", "if", "match",
    "unsafe", "const"]
  match ← anyWord keywords with
  | "async" => done .async (do
    let _ ← optionalWord "move"
    block)
  | "try" => done .attemptBlock block
  | "break" => done .break (do
    label
    operand)
  | "continue" => done .continue label
  | "return" => done .return operand
  | "yield" => done .yield operand
  | "let" => done .let (do
    skipTo (sign '=')
    sign '='
    i.expression false)
  | "if" => done .if (do
    let _ ← i.expression false
    branches i)
  | "match" => done .match (do
    let _ ← i.expression false
    block)
  | "unsafe" => done .unsafeBlock block
  | _ => done .const block

/-- The end of a range, which may be missing where the range is open at its end. -/
def rangeEnd (operand : TokenReader ExpressionForm) : TokenReader Unit := do
  if ← Reader.sees (symbol "..=") then
    let _ ← symbol "..="
    let _ ← operand
  else if ← Reader.sees (symbol "...") then failure
  else
    let _ ← symbol ".."
    let _ ← Reader.maybe operand

def pathExpressionStart : TokenReader Unit := do
  if ← Reader.sees (word "try") then
    let _ ← word "try"
    let _ ← symbol "!" <|> symbol "::"
  else
    let _ ← anyWord placeWords <|> (Identifier.spelling <$> identifier) <|> symbol "::" <|>
      symbol "<"

/-- An operand without the signs before it and the calls behind it. -/
def atom (allowsStruct : Bool) : TokenReader ExpressionForm := do
  let label : TokenReader Unit := do
    let _ ← lifetime
    let _ ← symbol ":"
  if ← Reader.sees label then
    label
    if ← Reader.sees (group .brace) then done .block block else loopExpression i
  else if ← Reader.sees literal then .literal <$> literal
  else if ← Reader.sees closureStart then done .closure (closure i allowsStruct)
  else if ← Reader.sees pathExpressionStart then pathExpression i allowsStruct
  else if ← Reader.sees (group .parenthesis) then within .parenthesis (parenthesisedExpression i)
  else if ← Reader.sees (group .bracket) then within .bracket (bracketedExpression i)
  else if ← Reader.sees (group .brace) then done .block block
  else if ← Reader.sees (anyWord ["loop", "while", "for"]) then loopExpression i
  else if ← Reader.sees (word "_") then done .infer (word "_")
  else keywordExpression i allowsStruct

def prefixSign : TokenReader ExpressionKind := do
  if ← Reader.sees (symbol "&") then
    let _ ← symbol "&"
    let raw : TokenReader Unit := do
      let _ ← word "raw"
      let _ ← anyWord ["const", "mut"]
    if ← Reader.sees raw then
      raw
      return .unknown
    else
      let _ ← optionalWord "mut"
      return .reference
  else
    let _ ← symbol "*" <|> symbol "!" <|> symbol "-"
    return .unary

def member : TokenReader ExpressionKind := do
  match ← Reader.maybe literal with
  | some l =>
    if l.kind = .float || (l.kind = .integer && !l.hasSuffix) then return .field else failure
  | none =>
    if ← Reader.sees (word "await") then
      let _ ← word "await"
      return .await
    else
      let _ ← identifier
      let isApplied ← Reader.sees (angledStart true)
      if isApplied then
        let _ ← angledArguments i
      if isApplied || (← Reader.sees (group .parenthesis)) then
        let _ ← within .parenthesis (expressions i)
        return .methodCall
      else return .field

/-- A call, an index, a member or a mark behind an operand. -/
def suffixPart : TokenReader ExpressionKind := do
  if ← Reader.sees (group .parenthesis) then
    let _ ← within .parenthesis (expressions i)
    return .call
  else if ← Reader.sees (group .bracket) then
    let _ ← within .bracket (i.expression true)
    return .index
  else if ← Reader.sees (symbol "?") then
    let _ ← symbol "?"
    return .attempt
  else if ← Reader.sees (symbol "..") then failure
  else
    let _ ← symbol "."
    member i

def operand (allowsStruct : Bool) : TokenReader ExpressionForm := do
  let before ← Reader.many (do
    let _ ← Reader.many (do
      let _ ← symbol "#"
      group .bracket)
    prefixSign)
  let form ← atom i allowsStruct
  let after ← Reader.many (suffixPart i)
  match before.head?.or after.getLast? with
  | some kind => return .other kind
  | none => return form

/-- The symbols of the operators that combine an old value with a new one. -/
def combinations : List String := ["+=", "-=", "*=", "/=", "%=", "^=", "&=", "|=", "<<=", ">>="]

/-- The symbols of operators by what they do; longer symbols come before their beginnings. -/
def binarySymbols : List (String × Operator) :=
  [("&&", .logical), ("||", .logical), ("<<", .arithmetic), (">>", .arithmetic),
   ("==", .comparison), ("<=", .comparison), ("!=", .comparison), (">=", .comparison),
   ("+", .arithmetic), ("-", .arithmetic), ("*", .arithmetic), ("/", .arithmetic),
   ("%", .arithmetic), ("^", .arithmetic), ("&", .arithmetic), ("|", .arithmetic),
   ("<", .comparison), (">", .comparison)]

def anySymbol (ss : List String) : TokenReader String := fun tokens =>
  ss.findSome? fun s => symbol s tokens

def operation (allowsStruct : Bool) : TokenReader Operator := do
  if ← Reader.sees (anySymbol combinations) then
    let _ ← anySymbol combinations
    let _ ← operand i allowsStruct
    return .combination
  else if ← Reader.sees (symbol "..") then
    rangeEnd (operand i allowsStruct)
    return .range
  else if ← Reader.sees (word "as") then
    let _ ← word "as"
    let _ ← i.type false
    return .cast
  else if ← Reader.sees (symbol "=>") then failure
  else
    match ← Reader.maybe (anySymbol (binarySymbols.map Prod.fst)) with
    | some s =>
      let _ ← operand i allowsStruct
      return (binarySymbols.lookup s).getD .arithmetic
    | none =>
      let _ ← symbol "="
      let _ ← operand i allowsStruct
      return .assignment

def expressionForm (allowsStruct : Bool) : TokenReader ExpressionForm := do
  let startsWithRange ← Reader.sees (symbol "..")
  let first ←
    if startsWithRange then
      rangeEnd (operand i allowsStruct)
      pure (ExpressionForm.other .range)
    else operand i allowsStruct
  let row ← Reader.many (operation i allowsStruct)
  if !Operator.chainsWell false row then failure
  match Operator.loosest? (if startsWithRange then .range :: row else row) with
  | some o => return .other o.kind
  | none => return first

def expression (allowsStruct : Bool) : TokenReader Expression := do
  let (form, tokens) ← Reader.captured (expressionForm i allowsStruct)
  return ⟨form, textOf tokens⟩

end KdbSchema.Source.Grammar

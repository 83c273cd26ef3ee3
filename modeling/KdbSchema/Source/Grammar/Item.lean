import KdbSchema.Source.Grammar.Nesting
import KdbSchema.Source.Item

/-!
# The grammar of items

An item stands alone in its text, with its attributes and its visibility before it.  Bodies are read
in full, so that a text with a fault anywhere is refused as a whole.

The rules are those that the outside parser of declarations documents.
-/

namespace KdbSchema.Source

namespace Grammar

variable (i : Nested)

def settingsName : String := "qschema"

/-- A value after an equals sign: a literal that nothing follows, or any expression without
attributes before it. -/
def assignedValue : TokenReader Expression := do
  let _ ← symbol "="
  let lone : TokenReader Literal := do
    let l ← literal
    Reader.finished
    return l
  if ← Reader.sees lone then
    let l ← lone
    return ⟨.literal l, withoutSpaces l.text⟩
  else if ← Reader.sees (symbol "#") then failure
  else i.expression true

/-- The name of a setting; keywords may be part of it. -/
def settingName : TokenReader String := do
  let _ ← optionalSymbol "::"
  let (names, hasMore) ← Reader.separated (symbol "::") anyIdentifier
  if names.isEmpty || hasMore then failure
  return "::".intercalate (names.map Identifier.spelling)

/-- A setting.  A literal is one without a name, unless it is a truth value that is given a value. -/
def setting : TokenReader Setting := do
  let assigned : TokenReader Unit := do
    let _ ← anyWord ["true", "false"]
    sign '='
  if (← Reader.sees literal) && !(← Reader.sees assigned) then
    let _ ← literal
    return .literal
  else
    let name ← settingName
    if ← Reader.sees anyGroup then
      let _ ← anyGroup
      return .named name .list
    else if ← Reader.sees (symbol "=") then
      return .named name (.expression (← assignedValue i))
    else return .named name .word

def anyContent : TokenReader (List Token) :=
  group .parenthesis <|> group .bracket <|> group .brace

def attributeContent : TokenReader Attribute := do
  let name ← word "unsafe" <|> plainPath
  let kind := fun (ours : Attribute) => if name = settingsName then ours else .foreign name
  if ← Reader.sees anyContent then
    match Reader.whole (commaSeparated (setting i)) (← anyContent) with
    | some (items, _) => return kind (.settings items)
    | none => return kind .unreadable
  else if ← Reader.sees (symbol "=") then
    let _ ← assignedValue i
    return kind .assigned
  else return kind (.settings [])

def attribute? : TokenReader Attribute := do
  let _ ← symbol "#"
  within .bracket (attributeContent i)

/-- The attributes that stand here; what looks like one has to be one. -/
def attributes : TokenReader (List Attribute) := do
  let found ← Reader.many (attribute? i)
  if ← Reader.sees (symbol "#") then failure
  return found

def visibility : TokenReader Unit := do
  if ← Reader.sees (word "pub") then
    let _ ← word "pub"
    let place := within .parenthesis (anyWord ["crate", "self", "super"])
    let startsInside : TokenReader Unit := do
      let content ← group .parenthesis
      if (word "in" content).isNone then failure
    if ← Reader.sees place then
      let _ ← place
    else if ← Reader.sees startsInside then
      let _ ← within .parenthesis (do
        let _ ← word "in"
        plainPath)

def optionalBounds : TokenReader String := do
  if ← Reader.sees (symbol ":") then
    let _ ← symbol ":"
    boundList (bound i false true)
  else return ""

def lifetimeBounds : TokenReader String := do
  let _ ← symbol ":"
  let bounds ← Reader.separated (symbol "+") lifetime
  return joined "+" bounds

/-- A name with its bounds; no colon is shown without bounds. -/
def withBounds (name bounds : String) : String :=
  if bounds.isEmpty then name else name ++ ":" ++ bounds

def constantParameter (lead : String) : TokenReader GenericParameter := do
  let keyword ← word "const"
  let name ← identifier
  let colon ← symbol ":"
  let t ← i.type true
  if ← Reader.sees (symbol "=") then
    let _ ← symbol "="
    let _ ← constantArgument <|> (Identifier.spelling <$> identifier)
  return ⟨false, name.spelling, lead ++ keyword ++ name.spelling ++ colon ++ t.text⟩

def genericParameter : TokenReader GenericParameter := do
  let (_, tokens) ← Reader.captured (attributes i)
  let lead := textOf tokens
  if ← Reader.sees lifetime then
    let name ← lifetime
    let bounds ← textIf (symbol ":") lifetimeBounds
    return ⟨true, name, lead ++ withBounds name bounds⟩
  else if ← Reader.sees (word "const") then constantParameter i lead
  else if ← Reader.sees (word "_") then return ⟨false, "_", lead ++ (← word "_")⟩
  else
    let name ← identifier
    let bounds ← optionalBounds i
    if ← Reader.sees (symbol "=") then
      let _ ← symbol "="
      let _ ← i.type true
    return ⟨false, name.spelling, lead ++ withBounds name.spelling bounds⟩

def condition : TokenReader String := do
  let bounded : TokenReader Unit := do
    let _ ← lifetime
    sign ':'
  if ← Reader.sees bounded then
    let name ← lifetime
    return name ++ ":" ++ (← lifetimeBounds)
  else
    let b ← optionalBinder
    let t ← i.type true
    let colon ← symbol ":"
    return b ++ t.text ++ colon ++ (← boundList (bound i false true))

def conditions : TokenReader String := do
  if ← Reader.sees (word "where") then
    let keyword ← word "where"
    let (found, hasMore) ← commaSeparated (condition i)
    return if found.isEmpty then "" else keyword ++ joined "," (found, hasMore)
  else return ""

def generics : TokenReader Generics := do
  if ← Reader.sees (symbol "<") then
    let _ ← symbol "<"
    let (parameters, endsWithComma) ← commaSeparated (genericParameter i)
    let _ ← symbol ">"
    return { parameters := parameters, endsWithComma := endsWithComma }
  else return {}

/-- The type of a field without a name, which may be a body of its own. -/
def unnamedType : TokenReader TypeExpr := do
  let inline : TokenReader String := do
    let keyword ← anyWord ["struct", "union"]
    return keyword ++ (← verbatim .brace)
  if ← Reader.sees inline then return .other (← inline) else i.type true

def namedField : TokenReader ItemField := do
  let found ← attributes i
  visibility
  let isUnnamed ← Reader.sees (word "_")
  let name ← if isUnnamed then anyIdentifier else identifier
  let _ ← symbol ":"
  let t ← if isUnnamed then unnamedType i else i.type true
  return ⟨found, name, t⟩

def namedFields : TokenReader (List ItemField) := do
  let (fields, _) ← within .brace (commaSeparated (namedField i))
  return fields

def positionalFields : TokenReader Nat := do
  let field : TokenReader Unit := do
    let _ ← attributes i
    visibility
    let _ ← i.type true
  let (fields, _) ← within .parenthesis (commaSeparated field)
  return fields.length

/-- The conditions and the body of a record.  Conditions stand before names and behind positions. -/
def recordBody : TokenReader (String × ItemBody) := do
  let hasConditions ← Reader.sees (word "where")
  let before ← conditions i
  if ← Reader.sees (group .brace) then return (before, .fields (← namedFields i))
  else if ← Reader.sees (symbol ";") then
    let _ ← symbol ";"
    return (before, .unit)
  else if hasConditions then failure
  else
    let count ← positionalFields i
    let after ← conditions i
    let _ ← symbol ";"
    return (after, .positional count)

def variant : TokenReader Unit := do
  let _ ← attributes i
  visibility
  let _ ← identifier
  if ← Reader.sees (group .brace) then
    let _ ← namedFields i
  else if ← Reader.sees (group .parenthesis) then
    let _ ← positionalFields i
  if ← Reader.sees (symbol "=") then
    let _ ← symbol "="
    let _ ← i.expression true

/-- The conditions and the body of an item, by the word that starts it. -/
def itemBody (keyword : String) : TokenReader (String × ItemBody) := do
  if keyword = "struct" then recordBody i
  else
    let found ← conditions i
    if keyword = "enum" then
      let _ ← within .brace (commaSeparated (variant i))
      return (found, .enumeration)
    else
      let _ ← namedFields i
      return (found, .union)

def item : TokenReader Item := do
  let found ← attributes i
  visibility
  let keyword ← anyWord ["struct", "enum", "union"]
  let name ← identifier
  let parameters ← generics i
  let (limits, body) ← itemBody i keyword
  return ⟨found, name, { parameters with conditions := limits }, body⟩

end Grammar

/-- The item that a text holds; none if it does not hold exactly one. -/
def Item.ofText? (s : String) : Option Item := Grammar.readText? Grammar.item s

end KdbSchema.Source

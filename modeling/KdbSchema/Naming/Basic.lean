import KdbSchema.Naming.Reserved
import KdbSchema.Text.Case

/-!
# Names

A q identifier is an ASCII letter followed by ASCII letters, digits and underscores.  A column or a
table name is an identifier that is not reserved for its role; a namespace is one or more
identifiers joined by dots, reserved words included.  Of several faults the leftmost is told, and a
fault of form comes before a reserved word.
-/

namespace KdbSchema

inductive NameRole where
  | column
  | table
deriving DecidableEq, Repr

inductive NameViolation where
  | empty
  | invalidCharacter (c : Char)
  | reserved (word : String) (role : NameRole)
  | duplicate
deriving DecidableEq, Repr

def NameRole.word : NameRole → String
  | column => "column"
  | table => "table"

def NameRole.words : NameRole → List String
  | column => columnWords
  | table => tableWords

def NameViolation.message : NameViolation → String
  | empty => "identifier is empty"
  | invalidCharacter c => "character '" ++ c.toString ++ "' is not allowed in a q identifier"
  | reserved word role => "'" ++ word ++ "' is a reserved " ++ role.word ++ " word"
  | duplicate => "identifier is already used by another column"

/-- Characters after the first letter of an identifier. -/
def isNamePart (c : Char) : Bool := c.isAlphanum || c = '_'

def checkForm : List Char → Except NameViolation Unit
  | [] => .error .empty
  | c :: rest =>
    if c.isAlpha then
      match rest.find? fun d => !isNamePart d with
      | some d => .error (.invalidCharacter d)
      | none => .ok ()
    else .error (.invalidCharacter c)

def checkName (role : NameRole) (extra : List String) (name : String) :
    Except NameViolation Unit := do
  checkForm name.toList
  if name ∈ role.words ∨ name ∈ extra then throw (.reserved name role)

def dotSegments : List Char → List (List Char)
  | [] => [[]]
  | c :: rest =>
    if c = '.' then [] :: dotSegments rest
    else match dotSegments rest with
      | [] => [[c]]
      | part :: parts => (c :: part) :: parts

/-- Checks that every segment of a namespace has the form of an identifier. -/
def checkNamespace (name : String) : Except NameViolation Unit :=
  (dotSegments name.toList).forM checkForm

/-- The name with its first character in small form and the rest unchanged. -/
def camelCase (name : String) : String :=
  match name.toList with
  | [] => ""
  | c :: rest => String.ofList (Text.lowerChar c ++ rest)

end KdbSchema

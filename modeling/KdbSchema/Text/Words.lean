import KdbSchema.Text.Case
import KdbSchema.Text.Grapheme

/-!
# Words of an identifier

An identifier written in words is joined again with every word capitalised.  A word ends at an
underscore, which is dropped, where a small letter meets a capital, where the last of several
capitals starts a word in small letters, and where a letter with case and a digit meet.

Case conversion is done by a library outside the program, which relies on it and does not contain
it.  The boundaries between words and the way in which a word is capitalised follow what that
library documents.
-/

namespace KdbSchema.Text

/-- A unit in its capital form, where that differs from the small one. -/
def isUpperUnit (g : List Char) : Bool := upperText g != lowerText g && g == upperText g

/-- A unit in its small form, where that differs from the capital one. -/
def isLowerUnit (g : List Char) : Bool := upperText g != lowerText g && g == lowerText g

def isDigitUnit (g : List Char) : Bool := g.all Char.isDigit

/-- Whether a word ends between `g` and the units after it. -/
def endsWord (g : List Char) : List (List Char) → Bool
  | [] => false
  | h :: rest =>
    (isLowerUnit g && isUpperUnit h) ||
    (isUpperUnit g && isUpperUnit h && (rest.head?.map isLowerUnit).getD false) ||
    ((isLowerUnit g || isUpperUnit g) && isDigitUnit h) ||
    (isDigitUnit g && (isLowerUnit h || isUpperUnit h))

/-- Cuts units into words; `word` holds the units of the current word in reverse. -/
def wordsFrom (word : List (List Char)) : List (List Char) → List (List (List Char))
  | [] => [word.reverse]
  | g :: rest =>
    if g = ['_'] then word.reverse :: wordsFrom [] rest
    else if endsWord g rest then (g :: word).reverse :: wordsFrom [] rest
    else wordsFrom (g :: word) rest

/-- The words of a text, each a list of units; empty words are left out. -/
def words (cs : List Char) : List (List (List Char)) :=
  (wordsFrom [] (graphemes cs)).filter fun w => !w.isEmpty

def capitalise : List (List Char) → List Char
  | [] => []
  | g :: rest => upperText g ++ lowerText rest.flatten

def pascalCase (s : String) : String :=
  String.ofList ((words s.toList).flatMap capitalise)

end KdbSchema.Text

import KdbSchema.Reader
import KdbSchema.Text.Hexadecimal

/-!
# Strings of a TOML document

Basic strings know escapes, literal strings do not; either may span several lines between threefold
quotes.  A line break right after the opening quotes is dropped, and up to two quotes may stand right
before the closing ones.  Control characters other than the tab are refused.
-/

namespace KdbSchema.Toml

def isPlain (c : Char) : Bool := c = '\t' || (' ' ≤ c && c ≠ '\x7f')

def isBlank (c : Char) : Bool := c = ' ' || c = '\t'

/-- The character that an escape stands for; the backslash is already taken. -/
def escape : Reader Char Char
  | 'b' :: rest => some ('\x08', rest)
  | 't' :: rest => some ('\t', rest)
  | 'n' :: rest => some ('\n', rest)
  | 'f' :: rest => some ('\x0c', rest)
  | 'r' :: rest => some ('\r', rest)
  | 'e' :: rest => some ('\x1b', rest)
  | '"' :: rest => some ('"', rest)
  | '\\' :: rest => some ('\\', rest)
  | 'x' :: rest => coded 2 rest
  | 'u' :: rest => coded 4 rest
  | 'U' :: rest => coded 8 rest
  | _ => none
where
  /-- A code point written with `n` hexadecimal digits. -/
  coded (n : Nat) (cs : List Char) : Option (Char × List Char) :=
    if (cs.take n).length = n then
      ((Text.hexNumber? (cs.take n)).bind Text.scalar?).map fun c => (c, cs.drop n)
    else none

private theorem escape_coded_shrinks {n : Nat} {s rest : List Char} {c : Char} (hn : 0 < n)
    (h : escape.coded n s = some (c, rest)) : rest.length < s.length := by
  unfold escape.coded at h
  split at h
  · rename_i htake
    simp only [Option.map_eq_some_iff, Prod.mk.injEq] at h
    obtain ⟨_, _, _, rfl⟩ := h
    simp only [List.length_take] at htake
    simp only [List.length_drop]
    omega
  · cases h

theorem escape_shrinks {s rest : List Char} {c : Char} (h : escape s = some (c, rest)) :
    rest.length < s.length := by
  unfold escape at h
  split at h
  case h_9 | h_10 | h_11 =>
    exact Nat.lt_succ_of_lt (escape_coded_shrinks (by decide) h)
  all_goals cases h <;> simp

def newline : Reader Char Unit
  | '\n' :: rest => some ((), rest)
  | '\r' :: '\n' :: rest => some ((), rest)
  | _ => none

def dropNewline : List Char → List Char
  | '\n' :: rest => rest
  | '\r' :: '\n' :: rest => rest
  | s => s

/-- The rest of a basic string on one line, up to and with the closing quote. -/
def basicBody (s : List Char) : Option (List Char × List Char) :=
  match s with
  | [] => none
  | '"' :: rest => some ([], rest)
  | '\\' :: rest =>
    match h : escape rest with
    | none => none
    | some (c, rest') =>
      have := escape_shrinks h
      (basicBody rest').map fun (cs, after) => (c :: cs, after)
  | c :: rest =>
    if isPlain c then (basicBody rest).map fun (cs, after) => (c :: cs, after) else none
termination_by s.length

/-- The rest of a literal string on one line, up to and with the closing quote. -/
def literalBody : List Char → Option (List Char × List Char)
  | [] => none
  | '\'' :: rest => some ([], rest)
  | c :: rest =>
    if isPlain c then (literalBody rest).map fun (cs, after) => (c :: cs, after) else none

def dropBreaks : List Char → List Char
  | '\n' :: rest => dropBreaks rest
  | '\r' :: '\n' :: rest => dropBreaks rest
  | c :: rest => if isBlank c then dropBreaks rest else c :: rest
  | [] => []

/-- What follows a backslash at the end of a line: blanks and line breaks up to the next character.
Refuses where the backslash does not end its line. -/
def continuation? (s : List Char) : Option (List Char) :=
  match newline (s.dropWhile isBlank) with
  | some (_, rest) => some (dropBreaks rest)
  | none => none

private theorem dropBreaks_length_le (s : List Char) : (dropBreaks s).length ≤ s.length := by
  fun_induction dropBreaks s with
  | case1 rest ih => exact Nat.le_succ_of_le ih
  | case2 rest ih => exact Nat.le_succ_of_le (Nat.le_succ_of_le ih)
  | case3 c rest _ _ _ ih => exact Nat.le_succ_of_le ih
  | case4 c rest => exact Nat.le_refl _
  | case5 => exact Nat.le_refl _

private theorem newline_length_lt {s rest : List Char} (h : newline s = some ((), rest)) :
    rest.length < s.length := by
  unfold newline at h
  split at h
  · cases h
    exact Nat.lt_succ_self _
  · cases h
    exact Nat.lt_succ_of_lt (Nat.lt_succ_self _)
  · cases h

theorem continuation?_length_le {s rest : List Char} (h : continuation? s = some rest) :
    rest.length ≤ s.length := by
  have hs : (s.dropWhile isBlank).length ≤ s.length := (List.dropWhile_sublist isBlank).length_le
  unfold continuation? at h
  split at h
  · rename_i t ht
    cases h
    have hbreaks := dropBreaks_length_le t
    have hline := newline_length_lt ht
    omega
  · cases h

/-- How the rest of a string goes on at a quote: the quotes that belong to the text, and what
follows the closing quotes if these are here. -/
def closing? (quote : Char) (s : List Char) : Option (List Char × List Char) :=
  let run := (s.takeWhile (· = quote)).length
  if run < 3 then none
  else
    let kept := min (run - 3) 2
    some (List.replicate kept quote, s.drop (kept + 3))

/-- The rest of a basic string over several lines, up to and with the closing quotes. -/
def basicLines (s : List Char) : Option (List Char × List Char) :=
  match s with
  | [] => none
  | '"' :: rest =>
    match closing? '"' ('"' :: rest) with
    | some found => some found
    | none => (basicLines rest).map fun (cs, after) => ('"' :: cs, after)
  | '\\' :: rest =>
    match hc : continuation? rest with
    | some rest' =>
      have := continuation?_length_le hc
      basicLines rest'
    | none =>
      match h : escape rest with
      | none => none
      | some (c, rest') =>
        have := escape_shrinks h
        (basicLines rest').map fun (cs, after) => (c :: cs, after)
  | '\n' :: rest => (basicLines rest).map fun (cs, after) => ('\n' :: cs, after)
  | '\r' :: '\n' :: rest => (basicLines rest).map fun (cs, after) => ('\n' :: cs, after)
  | c :: rest =>
    if isPlain c then (basicLines rest).map fun (cs, after) => (c :: cs, after) else none
termination_by s.length

/-- The rest of a literal string over several lines, up to and with the closing quotes. -/
def literalLines : List Char → Option (List Char × List Char)
  | [] => none
  | '\'' :: rest =>
    match closing? '\'' ('\'' :: rest) with
    | some found => some found
    | none => (literalLines rest).map fun (cs, after) => ('\'' :: cs, after)
  | '\n' :: rest => (literalLines rest).map fun (cs, after) => ('\n' :: cs, after)
  | '\r' :: '\n' :: rest => (literalLines rest).map fun (cs, after) => ('\n' :: cs, after)
  | c :: rest =>
    if isPlain c then (literalLines rest).map fun (cs, after) => (c :: cs, after) else none

def lineString : Reader Char String
  | '"' :: rest => (basicBody rest).map fun (cs, after) => (String.ofList cs, after)
  | '\'' :: rest => (literalBody rest).map fun (cs, after) => (String.ofList cs, after)
  | _ => none

def string : Reader Char String
  | '"' :: '"' :: '"' :: rest =>
    (basicLines (dropNewline rest)).map fun (cs, after) => (String.ofList cs, after)
  | '\'' :: '\'' :: '\'' :: rest =>
    (literalLines (dropNewline rest)).map fun (cs, after) => (String.ofList cs, after)
  | s => lineString s

end KdbSchema.Toml

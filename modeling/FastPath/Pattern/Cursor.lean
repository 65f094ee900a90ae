import FastPath.Pattern.Fault
import FastPath.Text.Blank

/-!
# Reading the text of a pattern

A cursor stands at a position of a text. Reading moves it forward, or ends with a fault. When blanks
do not count, it can be moved over them and over comments, which reach from a `#` to the end of the
line.
-/

namespace FastPath.Pattern

open FastPath.Text

/-- A position in a text. -/
structure Cursor where
  /-- How many characters stand before it. -/
  place : Nat
  /-- What stands behind it. -/
  rest : List Char
  /-- Blanks and comments do not count. -/
  loose : Bool
  /-- The names of groups so far, with their places. -/
  names : List (List Char × Span)

/-- An act of reading. -/
abbrev Reading := StateT Cursor (Except Fault)

/-- The characters behind blanks and comments. -/
def afterBlanks (comment : Bool) : List Char → List Char
  | [] => []
  | c :: cs =>
    if comment then afterBlanks (c ≠ '\n') cs
    else if isBlank c then afterBlanks false cs
    else if c = '#' then afterBlanks true cs
    else c :: cs

namespace Cursor

/-- The start of a text. -/
def start (text : List Char) : Cursor := ⟨0, text, false, []⟩

/-- The cursor behind so many more characters. -/
def advance (s : Cursor) (n : Nat) : Cursor :=
  { s with place := s.place + (s.rest.take n).length, rest := s.rest.drop n }

/-- How many characters stand before the next one that counts. -/
def idle (s : Cursor) : Nat :=
  if s.loose then s.rest.length - (afterBlanks false s.rest).length else 0

end Cursor

namespace Reading

/-- The position of the cursor. -/
def here : Reading Nat := return (← get).place

/-- What stands behind the cursor. -/
def rest : Reading (List Char) := return (← get).rest

/-- The next character. -/
def next? : Reading (Option Char) := return (← get).rest.head?

/-- The text is at its end. -/
def atEnd : Reading Bool := return (← get).rest.isEmpty

/-- Move to the next character that counts. -/
def skip : Reading Unit := modify fun s => s.advance s.idle

/-- Move over a character. -/
def step : Reading Unit := modify fun s => s.advance 1

/-- Move over a character and to the next one that counts. -/
def stride : Reading Unit := do
  step
  skip

/-- Move over a text if it comes next. -/
def take (text : List Char) : Reading Bool := do
  if text.isPrefixOf (← rest) then
    modify fun s => s.advance text.length
    return true
  else return false

/-- End with a fault between two positions. -/
def fail (flaw : Flaw) (start stop : Nat) : Reading α :=
  throw ⟨flaw, ⟨start, stop⟩, none⟩

/-- End with a fault between a position and the cursor. -/
def failFrom (flaw : Flaw) (start : Nat) : Reading α := do
  fail flaw start (← here)

/-- End with a fault at the cursor. -/
def failHere (flaw : Flaw) : Reading α := do
  failFrom flaw (← here)

/-- End with a fault at the next character. -/
def failNext (flaw : Flaw) : Reading α := do
  let place ← here
  fail flaw place (place + 1)

/-- The next characters while they are as wanted, given at least as much fuel as there are. -/
def collect (wanted : Char → Bool) : Nat → Reading (List Char)
  | 0 => return []
  | fuel + 1 => do
    match (← next?).filter wanted with
    | none => return []
    | some c =>
      stride
      return c :: (← collect wanted fuel)

/-- The next characters while they are as wanted. -/
def takeWhile (wanted : Char → Bool) : Reading (List Char) := do
  collect wanted (← rest).length

end Reading

end FastPath.Pattern

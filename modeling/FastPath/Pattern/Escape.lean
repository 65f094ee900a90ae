import FastPath.Pattern.Cursor
import FastPath.Pattern.Expression
import FastPath.Text.Hex

/-!
# Escapes

A backslash takes the meaning from a character that has one, and gives one to letters: they stand
for characters without a form, for a character with a number, for families of characters, or for
places in a text.
-/

namespace FastPath.Pattern

open FastPath.Text

/-- An expression without parts, with its place. -/
abbrev Atom := Span × Leaf

/-- The character has a meaning of its own somewhere in a pattern. -/
def isMeta (c : Char) : Bool :=
  c ∈ ['\\', '.', '+', '*', '?', '(', ')', '|', '[', ']', '\x7b', '\x7d', '^', '$', '#', '&', '-',
    '~']

/-- Behind a backslash the character stands for itself. -/
def isPlain (c : Char) : Bool :=
  isMeta c || (c.toNat < 0x80 && !c.isAlphanum && c ≠ '<' && c ≠ '>')

/-- The character without a form that a letter behind a backslash stands for. -/
def control? (c : Char) : Option Char :=
  match c with
  | 'a' => some '\x07'
  | 'f' => some '\x0c'
  | 't' => some '\t'
  | 'n' => some '\n'
  | 'r' => some '\r'
  | 'v' => some '\x0b'
  | _ => none

/-- The family of characters that a letter behind a backslash stands for. -/
def family? (c : Char) : Option Leaf :=
  match c with
  | 'd' => some (.family .digit false)
  | 'D' => some (.family .digit true)
  | 's' => some (.family .space false)
  | 'S' => some (.family .space true)
  | 'w' => some (.family .word false)
  | 'W' => some (.family .word true)
  | _ => none

/-- The test of words with a name. -/
def wordTest? (name : String) : Option WordTest :=
  match name with
  | "start" => some .start
  | "end" => some .stop
  | "start-half" => some .startHalf
  | "end-half" => some .stopHalf
  | _ => none

/-- How many digits a number has behind its letter. -/
def hexWidth (c : Char) : Nat :=
  if c = 'x' then 2 else if c = 'u' then 4 else 8

namespace Reading

/-- The character with a number whose digits stand between two positions. -/
def numbered (digits : List Nat) (start stop : Nat) : Reading Char :=
  let n := ofHexDigits digits
  if n.isValidChar then return Char.ofNat n else fail .noSuchCharacter start stop

/-- So many digits of a number. -/
def hexFixed : Nat → Reading (List Nat)
  | 0 => return []
  | n + 1 => do
    match ← next? with
    | none => failHere .openEscape
    | some c =>
      match hexValue? c with
      | none => failNext .noHexDigit
      | some v =>
        stride
        return v :: (← hexFixed n)

/-- The character whose number stands in braces. -/
def hexBraced : Reading Char := do
  let brace ← here
  stride
  let digits ← takeWhile fun c => (hexValue? c).isSome
  match ← next? with
  | none => failFrom .openEscape brace
  | some c =>
    if c ≠ '\x7d' then failNext .noHexDigit
    let stop ← here
    stride
    if digits.isEmpty then failFrom .noHexDigits brace
    numbered (digits.filterMap hexValue?) (brace + 1) stop

/-- A character by its number, from the letter that says how long the number is. -/
def hex (letter : Char) : Reading Leaf := do
  stride
  match ← next? with
  | none => failHere .openEscape
  | some '\x7b' => return .char (← hexBraced) false
  | some _ =>
    let start ← here
    let digits ← hexFixed (hexWidth letter)
    return .char (← numbered digits start (← here)) (letter = 'x')

/-- A property, from the letter before its name. -/
def property : Reading Leaf := do
  stride
  match ← next? with
  | none => failHere .openEscape
  | some '\x7b' =>
    stride
    let _ ← takeWhile (· ≠ '\x7d')
    if ← atEnd then failHere .openEscape
    step
    return .property
  | some c =>
    if c = '\\' then failNext .invalidProperty
    stride
    return .property

/-- A test for an edge of a word, which may be narrowed by a name in braces. Braces that hold no
name are left for a repetition. The escape begins at `start`. -/
def wordEdge (start : Nat) : Reading WordTest := do
  let inName (c : Char) : Bool := c.isAlpha || c = '-'
  let before ← get
  if !(← take ['\x7b']) then return .edge
  skip
  let inside ← here
  match ← next? with
  | none => failFrom .openWordTestOrCount start
  | some c =>
    if !inName c then
      set before
      return .edge
    let name ← takeWhile inName
    let stop ← here
    if !(← take ['\x7d']) then failFrom .openWordTest before.place
    match wordTest? (String.ofList name) with
    | some t => return t
    | none => fail .unknownWordTest inside stop

/-- What the character behind a backslash at `start` means. -/
def escaped (start : Nat) (c : Char) : Reading Leaf := do
  if c.isDigit then fail .backReference start ((← here) + 1)
  if c = 'x' ∨ c = 'u' ∨ c = 'U' then return ← hex c
  if c = 'p' ∨ c = 'P' then return ← property
  step
  if isPlain c then return .char c false
  match control? c, family? c with
  | some c, _ => return .char c false
  | none, some l => return l
  | none, none =>
    match c with
    | 'A' => return .textStart
    | 'z' => return .textEnd
    | 'b' => return .word (← wordEdge start)
    | 'B' => return .word .noEdge
    | '<' => return .word .start
    | '>' => return .word .stop
    | _ => failFrom .unknownEscape start

/-- An escape. -/
def escape : Reading Atom := do
  let start ← here
  step
  match ← next? with
  | none => failFrom .openEscape start
  | some c =>
    let leaf ← escaped start c
    return (⟨start, ← here⟩, leaf)

end Reading

end FastPath.Pattern

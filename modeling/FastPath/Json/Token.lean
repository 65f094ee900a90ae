import FastPath.Json.Number
import FastPath.Text.Hex

/-!
# JSON tokens

`Token.render` writes a token and `Token.scan` reads the tokens of a text, with any white space
between them. A string is written with the shortest escape of each character that needs one, and
read with every escape of the standard.
-/

namespace FastPath.Json

open FastPath.Text

/-- The smallest pieces of a JSON text. A string token without a text is well formed but names no
sequence of characters. -/
inductive Token
  | openArray
  | closeArray
  | openObject
  | closeObject
  | comma
  | colon
  | string (s : Option String)
  | scalar (v : Json)

/-- The letter after a backslash that names a character. -/
def escapeLetter? (c : Char) : Option Char :=
  if c = '\x22' then some '\x22'
  else if c = '\\' then some '\\'
  else if c = '\x08' then some 'b'
  else if c = '\x0c' then some 'f'
  else if c = '\n' then some 'n'
  else if c = '\r' then some 'r'
  else if c = '\t' then some 't'
  else none

/-- The character that a letter after a backslash names. -/
def ofEscapeLetter? (c : Char) : Option Char :=
  if c = '\x22' then some '\x22'
  else if c = '\\' then some '\\'
  else if c = '/' then some '/'
  else if c = 'b' then some '\x08'
  else if c = 'f' then some '\x0c'
  else if c = 'n' then some '\n'
  else if c = 'r' then some '\r'
  else if c = 't' then some '\t'
  else none

/-- A character inside a string: escaped when it must be, else as it is. -/
def escapeChar (c : Char) : List Char :=
  match escapeLetter? c with
  | some e => ['\\', e]
  | none =>
    if c.toNat < 0x20 then
      ['\\', 'u', '0', '0', hexDigit (c.toNat / 16), hexDigit (c.toNat % 16)]
    else [c]

/-- The digits of a whole number. -/
def wholeText (n : Int) : List Char :=
  if n < 0 then '-' :: Nat.toDigits 10 n.natAbs else Nat.toDigits 10 n.natAbs

/-- The text of a value that is neither an array nor an object. Values that no writer produces are
written as `null`. -/
def scalarText : Json → List Char
  | .bool true => ['t', 'r', 'u', 'e']
  | .bool false => ['f', 'a', 'l', 's', 'e']
  | .whole n => wholeText n
  | _ => ['n', 'u', 'l', 'l']

/-- The text of a token. -/
def Token.render : Token → List Char
  | .openArray => ['[']
  | .closeArray => [']']
  | .openObject => ['\x7b']
  | .closeObject => ['\x7d']
  | .comma => [',']
  | .colon => [':']
  | .string s => '\x22' :: (s.getD "").toList.flatMap escapeChar ++ ['\x22']
  | .scalar v => scalarText v

/-- What a string holds between its quotes: characters, and halves of surrogate pairs written as
escapes. -/
inductive Piece
  | char (c : Char)
  | half (n : Nat)

/-- The piece that four hexadecimal digits name. -/
def Piece.ofCode (n : Nat) : Piece :=
  if 0xD800 ≤ n ∧ n ≤ 0xDFFF then .half n else .char (Char.ofNat n)

/-- The characters of the pieces put after `done`, which is in reverse. Halves must come in pairs,
the high one first. -/
def joinPieces (done : List Char) : List Piece → Option (List Char)
  | [] => some done.reverse
  | .char c :: ps => joinPieces (c :: done) ps
  | .half h :: .half l :: ps =>
    if h < 0xDC00 ∧ 0xDC00 ≤ l then
      joinPieces (Char.ofNat (0x10000 + (h - 0xD800) * 0x400 + (l - 0xDC00)) :: done) ps
    else none
  | .half _ :: _ => none

/-- The number that four hexadecimal digits name. -/
def hexQuad? (a b c d : Char) : Option Nat := do
  return ofHexDigits [← hexValue? a, ← hexValue? b, ← hexValue? c, ← hexValue? d]

/-- Read a string from behind its opening quote to its closing quote. The pieces read so far are in
reverse. -/
def scanString (done : List Piece) : List Char → Option (Option String × List Char)
  | [] => none
  | '\x22' :: r => some ((joinPieces [] done.reverse).map String.ofList, r)
  | '\\' :: 'u' :: a :: b :: c :: d :: r =>
    match hexQuad? a b c d with
    | some n => scanString (.ofCode n :: done) r
    | none => none
  | '\\' :: e :: r =>
    match ofEscapeLetter? e with
    | some c => scanString (.char c :: done) r
    | none => none
  | c :: r => if c.toNat < 0x20 ∨ c = '\\' then none else scanString (.char c :: done) r

/-- The blanks that may stand between tokens. -/
def isSpace (c : Char) : Bool :=
  c = ' ' || c = '\n' || c = '\t' || c = '\r'

/-- Read one token from a text that does not start with a blank. -/
def scanToken : List Char → Option (Token × List Char)
  | '[' :: r => some (.openArray, r)
  | ']' :: r => some (.closeArray, r)
  | '\x7b' :: r => some (.openObject, r)
  | '\x7d' :: r => some (.closeObject, r)
  | ',' :: r => some (.comma, r)
  | ':' :: r => some (.colon, r)
  | '\x22' :: r => (scanString [] r).map fun (s, r) => (.string s, r)
  | 't' :: 'r' :: 'u' :: 'e' :: r => some (.scalar (.bool true), r)
  | 'f' :: 'a' :: 'l' :: 's' :: 'e' :: r => some (.scalar (.bool false), r)
  | 'n' :: 'u' :: 'l' :: 'l' :: r => some (.scalar .null, r)
  | r => (scanNumber r).map fun (v, r) => (.scalar v, r)

/-- Read the tokens of a text, given at least as much fuel as characters. The tokens read so far are
in reverse. -/
def scanTokens (done : List Token) : Nat → List Char → Option (List Token)
  | _, [] => some done.reverse
  | 0, _ :: _ => none
  | fuel + 1, c :: r =>
    if isSpace c then scanTokens done fuel r
    else match scanToken (c :: r) with
      | some (t, r) => scanTokens (t :: done) fuel r
      | none => none

/-- The tokens of a text, or `none` when it is not made of tokens. -/
def Token.scan (cs : List Char) : Option (List Token) :=
  scanTokens [] cs.length cs

end FastPath.Json

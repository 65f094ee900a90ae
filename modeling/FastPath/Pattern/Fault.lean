import FastPath.Text.Split

/-!
# Faults in patterns

A fault names what is wrong with the text of a pattern and where. Its report shows the text with
marks below the places that it is about. The lines of a text with several are numbered, and a place
that reaches beyond its line is told in words.
-/

namespace FastPath.Pattern

open FastPath.Text

/-- The characters of a text from one position up to another. -/
structure Span where
  start : Nat
  stop : Nat
deriving DecidableEq

/-- What may be wrong with the text of a pattern. -/
inductive Flaw
  | invalidMember
  | reversedRange
  | rangeOfSets
  | openBracket
  | numberTooLarge
  | noHexDigits
  | noSuchCharacter
  | noHexDigit
  | openEscape
  | unknownEscape
  | danglingNegation
  | repeatedFlag
  | repeatedNegation
  | openFlags
  | unknownFlag
  | repeatedName
  | emptyName
  | invalidName
  | openName
  | openGroup
  | noGroup
  | reversedCount
  | noCount
  | openCount
  | nothingRepeated
  | tooDeep
  | openWordTest
  | unknownWordTest
  | openWordTestOrCount
  | invalidProperty
  | backReference
  | lookAround
  | onlyUnicode
  | invalidBytes
  | unknownProperty
  | unicodeClass
  | unicodeCase
deriving DecidableEq

/-- The wording of a flaw. -/
def Flaw.message : Flaw → String
  | invalidMember => "invalid escape sequence found in character class"
  | reversedRange => "invalid character class range, the start must be <= the end"
  | rangeOfSets => "invalid range boundary, must be a literal"
  | openBracket => "unclosed character class"
  | numberTooLarge => "decimal literal invalid"
  | noHexDigits => "hexadecimal literal empty"
  | noSuchCharacter => "hexadecimal literal is not a Unicode scalar value"
  | noHexDigit => "invalid hexadecimal digit"
  | openEscape => "incomplete escape sequence, reached end of pattern prematurely"
  | unknownEscape => "unrecognized escape sequence"
  | danglingNegation => "dangling flag negation operator"
  | repeatedFlag => "duplicate flag"
  | repeatedNegation => "flag negation operator repeated"
  | openFlags => "expected flag but got end of regex"
  | unknownFlag => "unrecognized flag"
  | repeatedName => "duplicate capture group name"
  | emptyName => "empty capture group name"
  | invalidName => "invalid capture group character"
  | openName => "unclosed capture group name"
  | openGroup => "unclosed group"
  | noGroup => "unopened group"
  | reversedCount => "invalid repetition count range, the start must be <= the end"
  | noCount => "repetition quantifier expects a valid decimal"
  | openCount => "unclosed counted repetition"
  | nothingRepeated => "repetition operator missing expression"
  | tooDeep => "exceed the maximum number of nested parentheses/brackets (250)"
  | openWordTest =>
    "special word boundary assertion is either unclosed or contains an invalid character"
  | unknownWordTest => "unrecognized special word boundary assertion, valid choices are: start, " ++
    "end, start-half or end-half"
  | openWordTestOrCount => "found either the beginning of a special word boundary or a bounded " ++
    "repetition on a \\b with an opening brace, but no closing brace"
  | invalidProperty => "invalid Unicode character class"
  | backReference => "backreferences are not supported"
  | lookAround => "look-around, including look-ahead and look-behind, is not supported"
  | onlyUnicode => "Unicode not allowed here"
  | invalidBytes => "pattern can match invalid UTF-8"
  | unknownProperty => "Unicode property not found"
  | unicodeClass =>
    "Unicode-aware Perl class not found (make sure the unicode-perl feature is enabled)"
  | unicodeCase => "Unicode-aware case insensitivity matching is not available " ++
    "(make sure the unicode-case feature is enabled)"

/-- A flaw and its place. Where something is repeated, `earlier` is the place where it stands
first. -/
structure Fault where
  flaw : Flaw
  span : Span
  earlier : Option Span
deriving DecidableEq

namespace Fault

/-- The places that a fault is about. -/
def spans (f : Fault) : List Span := f.earlier.toList ++ [f.span]

/-- The line and the column of a position, both from zero on. -/
def spot (text : List Char) (position : Nat) : Nat × Nat :=
  let before := text.take position
  (before.count '\n', (before.reverse.takeWhile (· ≠ '\n')).length)

/-- A line of marks between columns, behind `done` columns. A place without characters has a mark,
too. -/
def marks (done : Nat) : List (Nat × Nat) → List Char
  | [] => []
  | (start, stop) :: rest =>
    let blanks := start - done
    let length := max 1 (stop - start)
    List.replicate blanks ' ' ++ List.replicate length '^' ++ marks (done + blanks + length) rest

/-- The line below the line with a number, when there are places to mark on it. It is moved by as
much as stands in front of the lines. -/
def below (f : Fault) (text : List Char) (number margin : Nat) : String :=
  let columns := f.spans.filterMap fun s =>
    let (first, start) := spot text s.start
    let (last, stop) := spot text s.stop
    if first = number ∧ last = number then some (start, stop) else none
  if columns.isEmpty then ""
  else String.ofList (List.replicate margin ' ' ++ marks 0 columns ++ ['\n'])

/-- The places that reach beyond their lines, in words. -/
def across (f : Fault) (text : List Char) : List String :=
  f.spans.filterMap fun s =>
    let (first, start) := spot text s.start
    let (last, stop) := spot text s.stop
    if first = last then none
    else some (s!"on line {first + 1} (column {start + 1}) through " ++
      s!"line {last + 1} (column {stop})\n")

/-- The lines of a text. A line feed at its end begins no line, and the carriage return of a line
end is left out. -/
def linesOf (text : List Char) : List (List Char) :=
  let parts := splitOn '\n' text
  let ended := parts.dropLast.map fun l => if l.getLast? = some '\r' then l.dropLast else l
  ended ++ (parts.getLast?.filter fun l => !l.isEmpty).toList

/-- The text of a pattern with marks below the places that a fault is about. -/
def display (f : Fault) (text : List Char) : String :=
  let count := (splitOn '\n' text).length
  if count ≤ 1 then s!"    {String.ofList text}\n" ++ f.below text 0 4
  else
    let width := (toString count).length
    let bar := String.ofList (List.replicate 79 '~') ++ "\n"
    let shown := (linesOf text).zipIdx.map fun (line, i) =>
      let number := String.ofList ((toString (i + 1)).toList.leftpad width ' ')
      s!"{number}: {String.ofList line}\n" ++ f.below text i (width + 2)
    bar ++ String.join shown ++ bar ++ String.join (f.across text)

/-- The report of a fault in the text of a pattern. -/
def report (f : Fault) (text : List Char) : String :=
  s!"regex parse error:\n{f.display text}error: {f.flaw.message}"

end Fault

end FastPath.Pattern

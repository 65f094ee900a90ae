import FastPath.Pattern.CharSet

/-!
# Patterns

A pattern describes texts, and tests of the characters around a place. Whether it occurs in a text
is found by marking places: the places where a part of a pattern may begin are turned into those
where it may end. A text of `n` characters has `n + 1` places, one before each character and one
behind the last.
-/

namespace FastPath

/-- A test of the characters on both sides of a place. -/
inductive Boundary
  | textStart
  | textEnd
  /-- Also behind a line feed, or behind any line end with a carriage return. -/
  | lineStart (returns : Bool)
  /-- Also before a line feed, or before any line end with a carriage return. -/
  | lineEnd (returns : Bool)
  | wordEdge
  | noWordEdge
  | wordStart
  | wordEnd
  | noWordBefore
  | noWordAfter
deriving DecidableEq

namespace Boundary

/-- The test holds between two characters; at an end of the text one is missing. -/
def holds : Boundary → Option Char → Option Char → Bool
  | textStart, before, _ => before.isNone
  | textEnd, _, after => after.isNone
  | lineStart returns, before, after =>
    before.all (· = '\n') || (returns && before = some '\r' && after ≠ some '\n')
  | lineEnd returns, before, after =>
    if returns then after.all (· = '\r') || (after = some '\n' && before ≠ some '\r')
    else after.all (· = '\n')
  | wordEdge, before, after => before.any CharSet.word.contains != after.any CharSet.word.contains
  | noWordEdge, before, after => before.any CharSet.word.contains == after.any CharSet.word.contains
  | wordStart, before, after =>
    !before.any CharSet.word.contains && after.any CharSet.word.contains
  | wordEnd, before, after =>
    before.any CharSet.word.contains && !after.any CharSet.word.contains
  | noWordBefore, before, _ => !before.any CharSet.word.contains
  | noWordAfter, _, after => !after.any CharSet.word.contains

end Boundary

/-- A description of texts. -/
inductive Pattern
  | empty
  | one (s : CharSet)
  | boundary (b : Boundary)
  | seq (first second : Pattern)
  | alt (a b : Pattern)
  /-- At least so many times, and at most so many if there is a limit. -/
  | times (p : Pattern) (least : Nat) (most : Option Nat)
deriving DecidableEq

/-- The characters on both sides of a place. -/
abbrev Sides := Option Char × Option Char

namespace Pattern

/-- The places of a text behind a character, if there is one. -/
def places (before : Option Char) : List Char → List Sides
  | [] => [(before, none)]
  | c :: cs => (before, some c) :: places (some c) cs

/-- Apply a change so many times. One that changes nothing is not repeated. -/
def iterate (f : List Bool → List Bool) : Nat → List Bool → List Bool
  | 0, marks => marks
  | n + 1, marks =>
    let next := f marks
    if next = marks then marks else iterate f n next

/-- Apply a change at most so many times, and keep the marks on the way. -/
def spread (f : List Bool → List Bool) : Nat → List Bool → List Bool
  | 0, marks => marks
  | n + 1, marks =>
    let next := List.zipWith or marks (f marks)
    if next = marks then marks else spread f n next

/-- The places where the pattern may end if it begins at a marked place. -/
def advance (around : List Sides) : Pattern → List Bool → List Bool
  | empty, marks => marks
  | one s, marks =>
    let taken := List.zipWith (fun mark (_, after) => mark && after.any s.contains) marks around
    false :: taken.dropLast
  | boundary b, marks =>
    List.zipWith (fun mark (before, after) => mark && b.holds before after) marks around
  | seq p q, marks => advance around q (advance around p marks)
  | alt p q, marks => List.zipWith or (advance around p marks) (advance around q marks)
  | times p least most, marks =>
    let more := most.elim around.length (· - least)
    spread (advance around p) more (iterate (advance around p) least marks)

/-- The pattern occurs somewhere in a text. -/
def occursIn (p : Pattern) (text : List Char) : Bool :=
  let around := places none text
  (advance around p (around.map fun _ => true)).any id

end Pattern

end FastPath

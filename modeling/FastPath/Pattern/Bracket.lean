import FastPath.Pattern.Escape

/-!
# Brackets

Brackets hold characters, ranges of them, families, and brackets within. Two of the characters `&`,
`-` or `~` combine what stands before them with what follows.
-/

namespace FastPath.Pattern

namespace Reading

/-- A character or an escape. -/
def member : Reading Atom := do
  let start ← here
  match ← next? with
  | none => failHere .openBracket
  | some c =>
    if c = '\\' then escape
    else
      step
      return (⟨start, start + 1⟩, .char c false)

/-- What an atom stands for in brackets. -/
def asMembers : Atom → Reading Members
  | (span, .char c byte) => return .char span c byte
  | (span, .family s negated) => return .family span s negated
  | (span, .property) => return .property span
  | (span, _) => fail .invalidMember span.start span.stop

/-- An end of a range. -/
def asBound : Atom → Reading (Span × Char × Bool)
  | (span, .char c byte) => return (span, c, byte)
  | (span, _) => fail .rangeOfSets span.start span.stop

/-- The character behind the next one. -/
def following? : Reading (Option Char) := do
  let s := (← get).advance 1
  return (s.advance s.idle).rest.head?

/-- A member or a range, in brackets that open at a place. -/
def members (opening : Span) : Reading Members := do
  let a ← member
  skip
  if ← atEnd then fail .openBracket opening.start opening.stop
  let behind ← following?
  if (← next?) ≠ some '-' ∨ behind = some ']' ∨ behind = some '-' then asMembers a
  else
    stride
    if ← atEnd then fail .openBracket opening.start opening.stop
    let b ← member
    let lo ← asBound a
    let hi ← asBound b
    if hi.2.1 < lo.2.1 then fail .reversedRange lo.1.start hi.1.stop
    return .range lo hi

/-- A named set between `[:` and `:]`, if one comes next. -/
def named? : Reading (Option Members) := do
  let start ← here
  match ← rest with
  | '[' :: ':' :: r =>
    let negated := r.head? = some '^'
    let r := if negated then r.tail else r
    let name := List.takeWhile (· ≠ ':') r
    match CharSet.named? (String.ofList name), [':', ']'].isPrefixOf (r.drop name.length) with
    | some s, true =>
      modify fun c => c.advance (name.length + (if negated then 5 else 4))
      return some (.named ⟨start, ← here⟩ s negated)
    | _, _ => return none
  | _ => return none

/-- The dashes at the front of brackets that open at a position, given at least as much fuel as
characters. -/
def dashes (start : Nat) : Nat → Reading (List Members)
  | 0 => return []
  | fuel + 1 => do
    if (← next?) ≠ some '-' then return []
    let place ← here
    stride
    if ← atEnd then fail .openBracket start start
    return .char ⟨place, place + 1⟩ '-' false :: (← dashes start fuel)

/-- The front of brackets: the place of it, whether the members are negated, and the members whose
meaning hangs on standing there. -/
def front : Reading (Span × Bool × List Members) := do
  let start ← here
  stride
  if ← atEnd then failFrom .openBracket start
  let negated := (← next?) = some '^'
  if negated then
    stride
    if ← atEnd then failFrom .openBracket start
  let first ← dashes start (← rest).length
  if first.isEmpty && (← next?) = some ']' then
    let place ← here
    stride
    if ← atEnd then failFrom .openBracket start
    return (⟨start, ← here⟩, negated, [.char ⟨place, place + 1⟩ ']' false])
  return (⟨start, ← here⟩, negated, first)

/-- How two characters combine sets. -/
def combination? : List Char → Option Combination
  | '&' :: '&' :: _ => some .both
  | '-' :: '-' :: _ => some .without
  | '~' :: '~' :: _ => some .differing
  | _ => none

/-- The members that begin at a position, with those before a combination. -/
def combine (start : Nat) (before : Option (Combination × Members)) (found : List Members) :
    Members :=
  let m := Members.ofList start found.reverse
  before.elim m fun (c, other) => .combined c other m

/-- What stands in brackets that open at a place, up to their end, given more fuel than characters.
The members from the position `start` on that are found so far are in reverse. -/
def bracketed (opening : Span) (start : Nat) (before : Option (Combination × Members))
    (found : List Members) : Nat → Reading Members
  | 0 => fail .openBracket opening.start opening.stop
  | fuel + 1 => do
    skip
    match ← next? with
    | none => fail .openBracket opening.start opening.stop
    | some ']' =>
      step
      return combine start before found
    | some '[' =>
      match ← named? with
      | some m => bracketed opening start before (m :: found) fuel
      | none =>
        let (inner, negated, first) ← front
        let m ← bracketed inner inner.stop none first.reverse fuel
        let span : Span := ⟨inner.start, ← here⟩
        bracketed opening start before (.bracket span negated m :: found) fuel
    | some _ =>
      match combination? (← rest) with
      | some c =>
        modify fun s => s.advance 2
        bracketed opening (← here) (some (c, combine start before found)) [] fuel
      | none => bracketed opening start before ((← members opening) :: found) fuel

/-- Brackets. -/
def bracket : Reading Expression := do
  let (opening, negated, first) ← front
  let m ← bracketed opening opening.stop none first.reverse ((← rest).length + 1)
  return .bracket ⟨opening.start, ← here⟩ negated m

end Reading

end FastPath.Pattern

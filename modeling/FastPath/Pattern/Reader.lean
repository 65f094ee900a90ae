import FastPath.Pattern.Bracket

/-!
# Reading expressions

`Expression.read?` takes the text of a pattern apart. Alternatives stand between bars and are made
of parts one behind the other, each of which may be repeated. Parentheses enclose groups, name them
and set flags.
-/

namespace FastPath.Pattern

/-- A flag by its letter. -/
def flag? (c : Char) : Option Flag :=
  match c with
  | 'i' => some .caseless
  | 'm' => some .multiLine
  | 's' => some .dotAll
  | 'U' => some .lazyFirst
  | 'u' => some .unicode
  | 'R' => some .returns
  | 'x' => some .loose
  | _ => none

/-- The character may stand in the name of a group. -/
def isNameChar (first : Bool) (c : Char) : Bool :=
  c = '_' || c.isAlpha || 0x80 ≤ c.toNat || (!first && (c.isDigit || c ∈ ['.', '[', ']']))

/-- What flags are set to by their letters: those behind a dash are turned off. -/
def settings (letters : List (Option Flag)) : Settings :=
  let on := letters.takeWhile Option.isSome
  let off := letters.drop on.length
  on.filterMap (·.map (·, true)) ++ off.filterMap (·.map (·, false))

namespace Reading

/-- The letters of flags with their places, up to a colon or a parenthesis, given at least as much
fuel as characters. A dash has no flag. Those found so far are in reverse. -/
def flagLetters (found : List (Option Flag × Span)) : Nat → Reading (List (Option Flag × Span))
  | 0 => failHere .openFlags
  | fuel + 1 => do
    let place ← here
    match ← next? with
    | none => failHere .openFlags
    | some c =>
      if c = ':' ∨ c = ')' then return found
      let flag := flag? c
      if flag.isNone ∧ c ≠ '-' then failNext .unknownFlag
      match found.reverse.lookup flag with
      | some earlier =>
        let flaw := if c = '-' then Flaw.repeatedNegation else .repeatedFlag
        throw ⟨flaw, ⟨place, place + 1⟩, some earlier⟩
      | none =>
        step
        if ← atEnd then failHere .openFlags
        flagLetters ((flag, ⟨place, place + 1⟩) :: found) fuel

/-- The flags in front of a colon or a parenthesis. -/
def flags : Reading Settings := do
  let letters ← flagLetters [] ((← rest).length + 1)
  match letters with
  | (none, span) :: _ => fail .danglingNegation span.start span.stop
  | _ => return settings (letters.reverse.map (·.1))

/-- The name of a group, up to the bracket behind it. -/
def groupName : Reading Unit := do
  if ← atEnd then failHere .openName
  let start ← here
  let text := List.takeWhile (· ≠ '>') (← rest)
  match text.zipIdx.find? fun (c, i) => !isNameChar (i = 0) c with
  | some (_, i) => fail .invalidName (start + i) (start + i + 1)
  | none =>
    modify fun s => s.advance text.length
    if ← atEnd then failHere .openName
    step
    if text.isEmpty then fail .emptyName start start
    let span : Span := ⟨start, start + text.length⟩
    match (← get).names.lookup text with
    | some earlier => throw ⟨.repeatedName, span, some earlier⟩
    | none => modify fun s => { s with names := (text, span) :: s.names }

/-- What an opening parenthesis stands for. -/
inductive Opening
  /-- Flags for what follows. -/
  | settings (span : Span) (changes : Settings)
  /-- A group with flags of its own. -/
  | group (changes : Settings)

/-- The front of a group, or flags in parentheses. -/
def opening : Reading Opening := do
  let start ← here
  stride
  for look in [['?', '='], ['?', '!'], ['?', '<', '='], ['?', '<', '!']] do
    if ← take look then failFrom .lookAround start
  let inside ← here
  if (← take ['?', 'P', '<']) || (← take ['?', '<']) then
    groupName
    return .group []
  if !(← take ['?']) then return .group []
  if ← atEnd then fail .openGroup start (start + 1)
  let changes ← flags
  let last ← next?
  step
  if last = some ':' then return .group changes
  if changes.isEmpty then fail .nothingRepeated inside inside
  return .settings ⟨start, ← here⟩ changes

/-- A mark behind a repetition that asks for as few repetitions as will do. It makes no difference
to whether a pattern occurs. -/
def frugal : Reading Unit := do
  let _ ← take ['?']

/-- A number of repetitions. Its fault is left to whoever needs the number. -/
def count : Reading (Except Fault Nat) := do
  let _ ← takeWhile Text.isBlank
  let start ← here
  let digits ← takeWhile Char.isDigit
  let span : Span := ⟨start, ← here⟩
  let _ ← takeWhile Text.isBlank
  let n := digits.foldl (fun n c => 10 * n + (c.toNat - '0'.toNat)) 0
  if digits.isEmpty then return .error ⟨.noCount, span, none⟩
  else if n < UInt32.size then return .ok n
  else return .error ⟨.numberTooLarge, span, none⟩

/-- How often something is repeated, from the opening brace. -/
def counts : Reading (Nat × Option Nat) := do
  let start ← here
  stride
  if ← atEnd then failFrom .openCount start
  let least ← count
  if ← atEnd then failFrom .openCount start
  let (least, most) ←
    if (← next?) ≠ some ',' then
      let n ← least
      pure (n, some n)
    else
      stride
      if ← atEnd then failFrom .openCount start
      let least ← least
      if (← next?) = some '\x7d' then pure (least, none)
      else pure (least, some (← (← count)))
  if (← next?) ≠ some '\x7d' then failFrom .openCount start
  stride
  frugal
  if most.any (· < least) then failFrom .reversedCount start
  return (least, most)

/-- The expressions so far, in reverse, with the last one repeated as the next character says. -/
def repetition (items : List Expression) (c : Char) : Reading (List Expression) := do
  match items with
  | [] => failHere .nothingRepeated
  | e :: es =>
    if !e.isRepeatable then failHere .nothingRepeated
    let place ← here
    let (least, most) ←
      if c = '\x7b' then counts
      else
        step
        frugal
        pure (if c = '+' then 1 else 0, if c = '?' then some 1 else none)
    let start := e.span?.elim place (·.start)
    return .times ⟨start, ← here⟩ e least most :: es

/-- An expression without parts, from its first character. -/
def leaf (c : Char) : Reading Expression := do
  let place ← here
  if c = '\\' then
    let (span, l) ← escape
    return .leaf span l
  step
  let l := match c with
    | '.' => Leaf.dot
    | '^' => .lineStart
    | '$' => .lineEnd
    | c => .char c false
  return .leaf ⟨place, place + 1⟩ l

/-- How far the alternatives of a group, or of a whole pattern, are read. -/
structure Level where
  /-- The parenthesis that opens the group. -/
  opening : Option Span
  /-- Where the alternatives begin. -/
  start : Nat
  /-- The alternatives that are read, in reverse. -/
  branches : List Expression
  /-- Where the alternative that is being read begins. -/
  branchStart : Nat
  /-- The parts of it that are read, in reverse. -/
  items : List Expression

namespace Level

/-- Alternatives that begin at a position. -/
def fresh (opening : Option Span) (start : Nat) : Level := ⟨opening, start, [], start, []⟩

/-- The alternative that is being read, up to a position. -/
def branch (l : Level) (stop : Nat) : Expression :=
  .inSequence ⟨l.branchStart, stop⟩ l.items.reverse

/-- All alternatives, up to a position. -/
def close (l : Level) (stop : Nat) : Expression :=
  .anyOf ⟨l.start, stop⟩ (l.branch stop :: l.branches).reverse

/-- A part more. -/
def push (l : Level) (e : Expression) : Level := { l with items := e :: l.items }

end Level

/-- Alternatives up to the end of their group, or of the text, given more fuel than characters. -/
def alternatives (l : Level) : Nat → Reading Expression
  | 0 => return l.close (← here)
  | fuel + 1 => do
    skip
    let place ← here
    match ← next? with
    | none =>
      match l.opening with
      | some span => fail .openGroup span.start span.stop
      | none => return l.close place
    | some ')' =>
      if l.opening.isNone then failNext .noGroup
      return l.close place
    | some '|' =>
      step
      let branches := l.branch place :: l.branches
      alternatives { l with branches, branchStart := (← here), items := [] } fuel
    | some '(' =>
      match ← opening with
      | .settings span changes =>
        modify fun s => { s with loose := (changes.find? .loose).getD s.loose }
        alternatives (l.push (.settings span changes)) fuel
      | .group changes =>
        let loose := (← get).loose
        modify fun s => { s with loose := (changes.find? .loose).getD loose }
        let inner ← alternatives (.fresh (some ⟨place, place + 1⟩) (← here)) fuel
        modify fun s => { s with loose := loose }
        step
        alternatives (l.push (.group ⟨place, ← here⟩ changes inner)) fuel
    | some '[' =>
      let e ← bracket
      alternatives (l.push e) fuel
    | some c =>
      if c ∈ ['?', '*', '+', '\x7b'] then
        let items ← repetition l.items c
        alternatives { l with items } fuel
      else
        let e ← leaf c
        alternatives (l.push e) fuel

end Reading

/-- Read the text of a pattern. -/
def Expression.read (text : List Char) : Except Fault Expression := do
  let e ← (Reading.alternatives (.fresh none 0) (text.length + 1)).run' (Cursor.start text)
  match e.tooDeep? 0 with
  | some span => .error ⟨.tooDeep, span, none⟩
  | none => return e

end FastPath.Pattern

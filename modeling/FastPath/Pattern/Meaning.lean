import FastPath.Pattern.Reader
import FastPath.Pattern.Room

/-!
# What expressions describe

The flags at a place decide what an expression describes there. With the flag for Unicode, which is
set at first, characters are those of Unicode; but families, properties, cases and words are known
for ASCII only, so there they are faults, and a pattern that tests for words cannot be used. Without
the flag characters are those of ASCII, and a pattern must not describe bytes that are none.
-/

namespace FastPath.Pattern

/-- The flags at a place that make a difference. -/
structure Flags where
  caseless : Bool
  multiLine : Bool
  dotAll : Bool
  unicode : Bool
  returns : Bool
deriving DecidableEq

/-- The flags at the front of a pattern. -/
def Flags.initial : Flags := ⟨false, false, false, true, false⟩

/-- Change a flag. -/
def Flags.change (f : Flags) : Flag × Bool → Flags
  | (.caseless, on) => { f with caseless := on }
  | (.multiLine, on) => { f with multiLine := on }
  | (.dotAll, on) => { f with dotAll := on }
  | (.unicode, on) => { f with unicode := on }
  | (.returns, on) => { f with returns := on }
  | (.lazyFirst, _) | (.loose, _) => f

/-- Change several flags. -/
def Flags.apply (f : Flags) (changes : Settings) : Flags :=
  changes.foldl Flags.change f

/-- A flaw at a place. -/
def flawAt (flaw : Flaw) (span : Span) : Except Fault α :=
  .error ⟨flaw, span, none⟩

/-- A character that is written as a byte beyond ASCII, where bytes are read, is none. -/
def checkByte (f : Flags) (span : Span) (c : Char) (byte : Bool) : Except Fault Unit :=
  if !f.unicode ∧ byte ∧ 0x80 ≤ c.toNat then flawAt .invalidBytes span else .ok ()

/-- A set of members, or of all others if they are negated, with regard to cases. -/
def settled (f : Flags) (span : Span) (negated : Bool) (s : CharSet) : Except Fault CharSet :=
  if f.caseless ∧ f.unicode ∧ s ≠ .nothing then flawAt .unicodeCase span
  else
    let s := if f.caseless then s.caseless else s
    if !negated then .ok s
    else if f.unicode then .ok s.others
    else flawAt .invalidBytes span

/-- A family of characters. -/
def familySet (f : Flags) (span : Span) (s : CharSet) (negated : Bool) : Except Fault CharSet :=
  if f.unicode then flawAt .unicodeClass span
  else if negated then flawAt .invalidBytes span
  else .ok s

/-- A property. None is known. -/
def propertySet (f : Flags) (span : Span) : Except Fault CharSet :=
  flawAt (if f.unicode then .unknownProperty else .onlyUnicode) span

/-- A character in brackets. -/
def memberChar (f : Flags) (span : Span) (c : Char) (byte : Bool) : Except Fault Char := do
  checkByte f span c byte
  if !f.unicode ∧ 0x80 ≤ c.toNat then flawAt .onlyUnicode span else return c

/-- The set of two sets that are combined. -/
def Combination.set : Combination → CharSet → CharSet → CharSet
  | both => .both
  | without => .without
  | differing => .differing

/-- The set of what stands in brackets. -/
def Members.set (f : Flags) : Members → Except Fault CharSet
  | nothing _ => return .nothing
  | char span c byte => return .only (← memberChar f span c byte)
  | range lo hi =>
    return .range (← memberChar f lo.1 lo.2.1 lo.2.2) (← memberChar f hi.1 hi.2.1 hi.2.2)
  | family span s negated => familySet f span s negated
  | property span => propertySet f span
  | named span s negated => settled f span negated s
  | bracket span negated inner => do settled f span negated (← inner.set f)
  | row _ parts => parts.set f
  | union a b => return .either (← a.set f) (← b.set f)
  | combined c a b => do
    let left ← a.set f
    let right ← b.set f
    let right ← settled f b.span false right
    return c.set (← settled f a.span false left) right

/-- What is known at a place while an expression is gone through. -/
structure Context where
  flags : Flags
  /-- Words of Unicode are tested for. -/
  testsWords : Bool

/-- An act of going through an expression. -/
abbrev Finding := StateT Context (Except Fault)

/-- A test for words. -/
def WordTest.boundary : WordTest → Boundary
  | edge => .wordEdge
  | noEdge => .noWordEdge
  | start => .wordStart
  | stop => .wordEnd
  | startHalf => .noWordBefore
  | stopHalf => .noWordAfter

/-- What an expression without parts describes. -/
def Leaf.pattern (span : Span) : Leaf → Finding Pattern
  | char c byte => do
    let f := (← get).flags
    checkByte f span c byte
    if f.caseless ∧ f.unicode then flawAt .unicodeCase span
    else if f.caseless then return .one (.caseless (.only c))
    else return .one (.only c)
  | dot => do
    let f := (← get).flags
    if !f.unicode then flawAt .invalidBytes span
    else if f.dotAll then return .one .anything
    else return .one (.others (.ofList (if f.returns then ['\n', '\r'] else ['\n'])))
  | family s negated => do return .one (← familySet (← get).flags span s negated)
  | property => do return .one (← propertySet (← get).flags span)
  | lineStart => do
    let f := (← get).flags
    return .boundary (if f.multiLine then .lineStart f.returns else .textStart)
  | lineEnd => do
    let f := (← get).flags
    return .boundary (if f.multiLine then .lineEnd f.returns else .textEnd)
  | textStart => return .boundary .textStart
  | textEnd => return .boundary .textEnd
  | word t => do
    modify fun s => { s with testsWords := s.testsWords || s.flags.unicode }
    return .boundary t.boundary

/-- What an expression describes. Flags hold up to the end of the group that they are set in. -/
def Expression.pattern : Expression → Finding Pattern
  | empty => return .empty
  | leaf span l => l.pattern span
  | bracket span negated members => do
    let f := (← get).flags
    return .one (← settled f span negated (← members.set f))
  | settings _ changes => do
    modify fun s => { s with flags := s.flags.apply changes }
    return .empty
  | group _ changes inner => do
    let f := (← get).flags
    modify fun s => { s with flags := f.apply changes }
    let p ← inner.pattern
    modify fun s => { s with flags := f }
    return p
  | row _ parts => parts.pattern
  | seq a b => do return .seq (← a.pattern) (← b.pattern)
  | alt a b => do return .alt (← a.pattern) (← b.pattern)
  | times _ e least most => do
    let before := (← get).testsWords
    let p ← e.pattern
    if most = some 0 then
      modify fun s => { s with testsWords := before }
      return .empty
    else return .times p least most

/-- Why a text denotes no pattern that can be used. -/
inductive Problem
  | faulty (f : Fault)
  | tooLarge
  | wordsUnknown
deriving DecidableEq

/-- The wording of a problem with a text. -/
def Problem.message (text : List Char) : Problem → String
  | faulty f => f.report text
  | tooLarge => s!"Compiled regex exceeds size limit of {mostRoom} bytes."
  | wordsUnknown => "error building NFA"

/-- The pattern that a text denotes. -/
def read (text : List Char) : Except Problem Pattern := do
  let e ← (Expression.read text).mapError .faulty
  let (p, s) ← (e.pattern.run ⟨.initial, false⟩).mapError .faulty
  if mostRoom < p.room then .error .tooLarge
  else if s.testsWords then .error .wordsUnknown
  else return p

end FastPath.Pattern

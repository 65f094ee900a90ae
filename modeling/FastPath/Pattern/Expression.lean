import FastPath.Pattern.CharSet
import FastPath.Pattern.Fault

/-!
# Expressions

An expression is the text of a pattern, taken apart. What its parts describe depends on the flags
that are set where they stand, so the parts keep their places in the text for faults that come to
light only then.
-/

namespace FastPath.Pattern

/-- A switch that changes what the expressions behind it describe. -/
inductive Flag
  | caseless
  | multiLine
  | dotAll
  | lazyFirst
  | unicode
  | returns
  /-- Blanks and comments do not count. -/
  | loose
deriving DecidableEq

/-- What flags are set to. -/
abbrev Settings := List (Flag × Bool)

/-- The places at the edges of words. -/
inductive WordTest
  | edge
  | noEdge
  | start
  | stop
  | startHalf
  | stopHalf
deriving DecidableEq

/-- The smallest expressions. -/
inductive Leaf
  /-- A character, which may be written as a byte. -/
  | char (c : Char) (byte : Bool)
  | dot
  /-- The members of a set of characters, or all others. -/
  | family (s : CharSet) (negated : Bool)
  | property
  | lineStart
  | lineEnd
  | textStart
  | textEnd
  | word (t : WordTest)
deriving DecidableEq

/-- How two sets are combined. -/
inductive Combination
  | both
  | without
  | differing
deriving DecidableEq

/-- What stands in brackets. -/
inductive Members
  | nothing (span : Span)
  | char (span : Span) (c : Char) (byte : Bool)
  | range (lo hi : Span × Char × Bool)
  | family (span : Span) (s : CharSet) (negated : Bool)
  | property (span : Span)
  | named (span : Span) (s : CharSet) (negated : Bool)
  | bracket (span : Span) (negated : Bool) (inner : Members)
  /-- Several parts. -/
  | row (span : Span) (parts : Members)
  | union (a b : Members)
  | combined (c : Combination) (a b : Members)
deriving DecidableEq

/-- The text of a pattern, taken apart. -/
inductive Expression
  | empty
  | leaf (span : Span) (l : Leaf)
  | bracket (span : Span) (negated : Bool) (members : Members)
  | settings (span : Span) (changes : Settings)
  | group (span : Span) (changes : Settings) (inner : Expression)
  /-- Several parts or alternatives. -/
  | row (span : Span) (parts : Expression)
  | seq (first second : Expression)
  | alt (a b : Expression)
  | times (span : Span) (e : Expression) (least : Nat) (most : Option Nat)
deriving DecidableEq

/-- How deep groups, brackets, rows and repetitions may stand in each other. -/
def deepest : Nat := 250

namespace Members

/-- The place of what stands in brackets. -/
def span : Members → Span
  | nothing s => s
  | char s .. => s
  | range lo hi => ⟨lo.1.start, hi.1.stop⟩
  | family s .. => s
  | property s => s
  | named s .. => s
  | bracket s .. => s
  | row s _ => s
  | union a b => ⟨a.span.start, b.span.stop⟩
  | combined _ a b => ⟨a.span.start, b.span.stop⟩

/-- The members of all of the parts, of which there is at least one. -/
def unite (m : Members) : List Members → Members
  | [] => m
  | n :: ms => union m (unite n ms)

/-- The members of all of the parts. Without parts, they would begin at a position. -/
def ofList (start : Nat) : List Members → Members
  | [] => nothing ⟨start, start⟩
  | [m] => m
  | m :: ms =>
    let all := unite m ms
    row all.span all

/-- The first part that stands too deep, if so much stands around. -/
def tooDeep? (depth : Nat) : Members → Option Span
  | bracket span _ inner => if depth < deepest then inner.tooDeep? (depth + 1) else some span
  | row span parts => if depth < deepest then parts.tooDeep? (depth + 1) else some span
  | combined _ a b =>
    if depth < deepest then (a.tooDeep? (depth + 1)).or (b.tooDeep? (depth + 1))
    else some ⟨a.span.start, b.span.stop⟩
  | union a b => (a.tooDeep? depth).or (b.tooDeep? depth)
  | _ => none

end Members

namespace Expression

/-- The place of an expression, if it has one. -/
def span? : Expression → Option Span
  | leaf s _ => s
  | bracket s .. => s
  | settings s _ => s
  | group s .. => s
  | row s _ => s
  | times s .. => s
  | _ => none

/-- The expressions one behind the other, of which there is at least one. -/
def chain (e : Expression) : List Expression → Expression
  | [] => e
  | f :: es => seq e (chain f es)

/-- Any of the expressions, of which there is at least one. -/
def choice (e : Expression) : List Expression → Expression
  | [] => e
  | f :: es => alt e (choice f es)

/-- The expressions one behind the other. -/
def inSequence (span : Span) : List Expression → Expression
  | [] => empty
  | [e] => e
  | e :: es => row span (chain e es)

/-- Any of the expressions. -/
def anyOf (span : Span) : List Expression → Expression
  | [] => empty
  | [e] => e
  | e :: es => row span (choice e es)

/-- The expression can be repeated. -/
def isRepeatable : Expression → Bool
  | empty => false
  | settings .. => false
  | _ => true

/-- The first part that stands too deep, if so much stands around. -/
def tooDeep? (depth : Nat) : Expression → Option Span
  | bracket span _ members =>
    if depth < deepest then members.tooDeep? (depth + 1) else some span
  | group span _ inner => if depth < deepest then inner.tooDeep? (depth + 1) else some span
  | row span parts => if depth < deepest then parts.tooDeep? (depth + 1) else some span
  | times span e _ _ => if depth < deepest then e.tooDeep? (depth + 1) else some span
  | seq a b => (a.tooDeep? depth).or (b.tooDeep? depth)
  | alt a b => (a.tooDeep? depth).or (b.tooDeep? depth)
  | _ => none

end Expression

/-- What a flag is set to, if it is. -/
def Settings.find? (s : Settings) (f : Flag) : Option Bool :=
  s.lookup f

end FastPath.Pattern

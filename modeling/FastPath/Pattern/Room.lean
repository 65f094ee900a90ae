import FastPath.Pattern.Basic

/-!
# The room that patterns take

The room of a pattern is that of its unfolding, in which each repetition stands as many times as may
be needed. It is reckoned in bytes, step by step, and a pattern that takes too much is refused.
-/

namespace FastPath

namespace CharSet

/-- The room for a step. -/
def stepRoom : Nat := 32

/-- The room for a choice among characters of ASCII: a fork, its branches and where they meet. -/
def choiceRoom : Nat := 72

/-- The room for a choice among all characters, whose bytes take many forks. -/
def wideRoom : Nat := 1000

/-- All members are characters of ASCII, as far as the make of the set tells. -/
def isAscii : CharSet → Bool
  | nothing => true
  | range _ hi => hi.toNat < 0x80
  | either a b => a.isAscii && b.isAscii
  | both a b => a.isAscii || b.isAscii
  | others _ => false
  | caseless a => a.isAscii

/-- The room for a member of the set. A single member takes a step for each of its bytes. -/
def room : CharSet → Nat
  | range lo hi =>
    if lo = hi then stepRoom * lo.utf8Size
    else if hi.toNat < 0x80 then choiceRoom
    else wideRoom
  | s => if s.isAscii then choiceRoom else wideRoom

end CharSet

namespace Pattern

/-- The most room that a pattern may take. -/
def mostRoom : Nat := 10485760

/-- The room for a fork between two ways. -/
def forkRoom : Nat := 40

/-- The room that a pattern takes. A repetition that may end has a fork before each copy that can be
left out. -/
def room : Pattern → Nat
  | empty => CharSet.stepRoom
  | one s => s.room
  | boundary _ => CharSet.stepRoom
  | seq p q => p.room + q.room
  | alt p q => p.room + q.room + forkRoom
  | times p least none => max least 1 * p.room + forkRoom
  | times p least (some most) => most * p.room + (most - least) * forkRoom

end Pattern

end FastPath

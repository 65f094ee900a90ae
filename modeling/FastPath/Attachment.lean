import FastPath.Platform.Basic
import Std.Data.ExtTreeSet

/-!
# Attachment of the forwarding programs

Forwarding between an internal and an external interface needs a program on each. An interface that
several pairs share gets its program with the first of them and loses it with the last.
-/

namespace FastPath

open Std

/-- An internal interface and the external one that it is forwarded to. -/
structure Pair where
  internal : String
  external : String
deriving DecidableEq

namespace Pair

/-- Pairs are ordered by their internal interface first. -/
instance : Ord Pair := ⟨compareLex (compareOn internal) (compareOn external)⟩

instance : TransOrd Pair :=
  inferInstanceAs (TransCmp (compareLex (compareOn internal) (compareOn external)))

instance : LawfulEqOrd Pair where
  eq_of_compare {a b} h := by
    have h : compareLex (compareOn internal) (compareOn external) a b = .eq := h
    simp only [compareLex, compareOn, Ordering.then_eq_eq, Std.compare_eq_iff_eq] at h
    cases a; cases b; simp_all

end Pair

/-- The attached pairs, and for each interface how often it occurs in them. -/
structure Attachments where
  /-- Whether there is anything that attaches programs. -/
  attacher : Bool
  pairs : ExtTreeSet Pair
  counts : ExtTreeMap String Nat

namespace Attachments

/-- Nothing is attached. -/
def empty (attacher : Bool) : Attachments := ⟨attacher, ∅, ∅⟩

/-- How often an interface occurs in the attached pairs. -/
def count (a : Attachments) (iface : String) : Nat :=
  a.counts.getD iface 0

/-- Have the program of an interface attached, if something does that. -/
def attachProgram (attacher : Bool) (iface : String) (d : Direction) (p : Platform) : Platform :=
  if attacher then
    match p.perform (Act.ask (.attach iface d)) with
    | (.ok (), p) => p
    | (.error f, p) => p.note (.attachFailed iface d f)
  else p.note (.noAttacher iface)

/-- Have the program of an interface detached, if something does that. -/
def detachProgram (attacher : Bool) (iface : String) (p : Platform) : Platform :=
  if attacher then
    match p.perform (Act.ask (.detach iface)) with
    | (.ok (), p) => p
    | (.error f, p) => p.note (.detachFailed iface f)
  else p

/-- Count an interface once more. -/
def acquire (iface : String) (d : Direction) (a : Attachments) (p : Platform) :
    Attachments × Platform :=
  let n := a.count iface + 1
  let a' := { a with counts := a.counts.insert iface n }
  if n = 1 then (a', attachProgram a.attacher iface d p)
  else (a', p.note (.alreadyAttached iface n))

/-- Count an interface once less. -/
def release (iface : String) (a : Attachments) (p : Platform) : Attachments × Platform :=
  match a.counts[iface]? with
  | none => (a, p)
  | some n =>
    if n ≤ 1 then
      ({ a with counts := a.counts.erase iface }, detachProgram a.attacher iface p)
    else ({ a with counts := a.counts.insert iface (n - 1) }, p)

/-- Attach a pair. The external interface comes first, since it carries the traffic to clients. -/
def attach (pair : Pair) (a : Attachments) (p : Platform) : Attachments × Platform :=
  if pair ∈ a.pairs then (a, p.note (.pairAttached pair.internal pair.external))
  else
    let (a, p) := acquire pair.external .downstream { a with pairs := a.pairs.insert pair } p
    acquire pair.internal .upstream a p

/-- Detach a pair. -/
def detach (pair : Pair) (a : Attachments) (p : Platform) : Attachments × Platform :=
  if pair ∈ a.pairs then
    let (a, p) := release pair.external { a with pairs := a.pairs.erase pair } p
    release pair.internal a p
  else (a, p.note (.pairNotAttached pair.internal pair.external))

/-- Detach all pairs, in order. -/
def detachAll (a : Attachments) (p : Platform) : Attachments × Platform :=
  a.pairs.toList.foldl (fun (a, p) pair => detach pair a p) (a, p)

end Attachments

end FastPath

import FastPath.Platform.Basic

/-!
# Access to the kernel tables

A `Slot` is one of the six tables: where it is kept and how its keys and values are laid out. The
accesses are the same for all six. An access that is refused changes nothing. The kernel writes to
the tables as well, without a call.
-/

namespace FastPath

open Std

/-- One of the kernel tables. -/
structure Slot (κ ν : Type) [Ord κ] where
  label : TableLabel
  /-- The table among the six. -/
  read : KernelTables → ExtTreeMap κ ν
  /-- Put a table in its place. -/
  write : ExtTreeMap κ ν → KernelTables → KernelTables
  keyBytes : κ → Bytes
  valueBytes : ν → Bytes

namespace Slot

/-- The version 4 flows to downstreams. -/
def downstream4 : Slot FlowKey Flow :=
  ⟨.downstream4, (·.downstream4), fun t k => { k with downstream4 := t }, FlowKey.bytes, Flow.bytes⟩

/-- The version 4 flows to upstreams. -/
def upstream4 : Slot FlowKey Flow :=
  ⟨.upstream4, (·.upstream4), fun t k => { k with upstream4 := t }, FlowKey.bytes, Flow.bytes⟩

/-- The rules. -/
def downstream6 : Slot RuleKey Target :=
  ⟨.downstream6, (·.downstream6), fun t k => { k with downstream6 := t }, RuleKey.bytes,
    Target.bytes⟩

/-- The upstream bindings. -/
def upstream6 : Slot IfIndex Target :=
  ⟨.upstream6, (·.upstream6), fun t k => { k with upstream6 := t }, indexBytes, Target.bytes⟩

/-- The counters. -/
def stats : Slot IfIndex Counters :=
  ⟨.stats, (·.stats), fun t k => { k with stats := t }, indexBytes, Counters.bytes⟩

/-- The limits. -/
def limit : Slot IfIndex Quota :=
  ⟨.limit, (·.limit), fun t k => { k with limit := t }, indexBytes, Quota.bytes⟩

variable {κ ν : Type} [Ord κ] [TransOrd κ] (s : Slot κ ν)

/-- The content of the table. -/
def content (p : Platform) : ExtTreeMap κ ν :=
  s.read p.kernel

/-- Replace the content of the table. -/
def store (t : ExtTreeMap κ ν) (p : Platform) : Platform :=
  { p with kernel := s.write t p.kernel }

/-- Put an entry into the table, as the kernel does. -/
def put (key : κ) (value : ν) (p : Platform) : Platform :=
  s.store ((s.content p).insert key value) p

/-- Take an entry out of the table, as the kernel does. -/
def remove (key : κ) (p : Platform) : Platform :=
  s.store ((s.content p).erase key) p

/-- The entries of the table as records, in the order of their keys. -/
def records (p : Platform) : List (Bytes × Bytes) :=
  (s.content p).toList.map fun (key, value) => (s.keyBytes key, s.valueBytes value)

/-- Look up a key. -/
def get (key : κ) : Act (Option ν) := do
  Act.ask (.table s.label (.get (s.keyBytes key)))
  return (s.content (← MonadState.get))[key]?

/-- Create an entry; its key must be new. -/
def insert (key : κ) (value : ν) : Act Unit := do
  let p ← MonadState.get
  let c := Call.table s.label (.insert (s.keyBytes key) (s.valueBytes value))
  if (p.refuses p.past c).isNone ∧ key ∈ s.content p then
    set (p.push (.call c (some (.keyExists s.label))))
    throw ⟨none, .keyExists s.label⟩
  else
    Act.ask c
    modify (s.put key value)

/-- Create or replace an entry. -/
def update (key : κ) (value : ν) : Act Unit := do
  Act.ask (.table s.label (.update (s.keyBytes key) (s.valueBytes value)))
  modify (s.put key value)

/-- Delete an entry; `false` when there was none. -/
def delete (key : κ) : Act Bool := do
  Act.ask (.table s.label (.delete (s.keyBytes key)))
  let p ← MonadState.get
  set (s.remove key p)
  return decide (key ∈ s.content p)

/-- All entries. That they come in the order of their keys is a choice: no order is promised of a
table, and nothing goes by this one. -/
def entries : Act (List (κ × ν)) := do
  Act.ask (.table s.label .forEach)
  return (s.content (← MonadState.get)).toList

/-- Delete all entries. -/
def clear : Act Unit := do
  Act.ask (.table s.label .clear)
  modify (s.store ∅)

end Slot

end FastPath

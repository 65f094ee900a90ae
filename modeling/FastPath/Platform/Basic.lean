import FastPath.Notice
import FastPath.Record

/-!
# The platform

The controller works against a platform: the kernel's tables, the offload daemon, and those who are
told of traffic, interfaces and connections. The platform is a value. Its tables say what is
installed, its journal lists every call made and every notice given so far, and `refuses` says which
calls fail, as a function of what went before, so that a statement about all platforms covers every
pattern of failing calls. Its `listing` says in which order a table without an order of its own is
gone through, so that such a statement covers every order as well.

An `Act` is a step against the platform that can fail. What it did before it failed stays done.
-/

namespace FastPath

open Std

/-- The six kernel tables. -/
structure KernelTables where
  downstream4 : ExtTreeMap FlowKey Flow
  upstream4 : ExtTreeMap FlowKey Flow
  /-- Where the traffic of each neighbor goes. -/
  downstream6 : ExtTreeMap RuleKey Target
  /-- Which upstream the traffic of a downstream interface goes to. -/
  upstream6 : ExtTreeMap IfIndex Target
  /-- The counters of each upstream. -/
  stats : ExtTreeMap IfIndex Counters
  /-- The data limit of each upstream. -/
  limit : ExtTreeMap IfIndex Quota
deriving DecidableEq

/-- Tables without entries. -/
def KernelTables.empty : KernelTables := ⟨∅, ∅, ∅, ∅, ∅, ∅⟩

/-- What the offload daemon keeps. -/
structure DaemonTables where
  rules : ExtTreeMap RuleKey Parcel
  stats : ExtTreeMap IfIndex Traffic
  quotas : ExtTreeMap IfIndex Quota
  /-- The index under which the final counters of an interface are reported, where it differs. -/
  reportedAs : ExtTreeMap IfIndex IfIndex
deriving DecidableEq

/-- A daemon that keeps nothing yet. -/
def DaemonTables.empty : DaemonTables := ⟨∅, ∅, ∅, ∅⟩

/-- An access to one kernel table. -/
inductive Access
  | get (key : Bytes)
  | insert (key value : Bytes)
  | update (key value : Bytes)
  | delete (key : Bytes)
  | forEach
  | clear
deriving DecidableEq

/-- A call to the offload daemon. -/
inductive DaemonCall
  | ruleAdd (p : Parcel)
  | ruleRemove (p : Parcel)
  | getStats
  | setQuota (i : IfIndex) (q : Quota)
  | getAndClear (i : IfIndex)
deriving DecidableEq

/-- What the controller asks of its backend. -/
inductive Request
  | addRule (r : Rule)
  | removeRule (r : Rule)
  | startForwarding (downstream upstream : IfIndex)
  | stopForwarding (downstream upstream : IfIndex)
  | readAll
  | setQuota (i : IfIndex) (q : Quota) (isFirst : Bool)
  | readAndClear (i : IfIndex)
  | clearAll
deriving DecidableEq

/-- A call that leaves the controller. -/
inductive Call
  | request (r : Request)
  | table (t : TableLabel) (a : Access)
  | daemon (d : DaemonCall)
  | publish (perInterface perOwner : List Share)
  | alert
  | attach (iface : String) (direction : Direction)
  | detach (iface : String)
  | startMonitor
  | stopMonitor
deriving DecidableEq

/-- An entry of the journal. -/
inductive Entry
  /-- A call, with the cause of its refusal if it was refused. -/
  | call (c : Call) (refusal : Option Cause)
  /-- An entry of the log. -/
  | notice (n : Notice)
  /-- A text shown to whoever watches the program. -/
  | shown (text : String)

/-- The order in which limits under the names of interfaces are listed. Their table is a hash table,
which lists every entry once, in an order that differs from one table to the next. -/
structure Listing where
  list : ExtTreeMap String Quota → List (String × Quota)
  perm : ∀ limits, (list limits).Perm limits.toList

/-- In the order of the names. -/
def Listing.sorted : Listing := ⟨ExtTreeMap.toList, fun _ => .rfl⟩

/-- Everything around the controller. -/
structure Platform where
  kernel : KernelTables
  daemon : DaemonTables
  /-- The reason for which a call fails after the given past, or `none` when it does not. -/
  refuses : List Entry → Call → Option String
  /-- What happened so far, the latest entry first. -/
  past : List Entry
  /-- The order in which limits are listed. -/
  listing : Listing

namespace Platform

/-- A platform without entries that refuses nothing and lists limits as said. -/
def fresh (listing : Listing) : Platform := ⟨.empty, .empty, fun _ _ => none, [], listing⟩

/-- A platform without entries that refuses nothing and lists limits in the order of their names. -/
def empty : Platform := fresh .sorted

/-- What happened so far, in order. -/
def journal (p : Platform) : List Entry :=
  p.past.reverse

/-- Write an entry into the journal. -/
def push (p : Platform) (e : Entry) : Platform :=
  { p with past := e :: p.past }

/-- Give a notice. -/
def note (p : Platform) (n : Notice) : Platform :=
  p.push (.notice n)

/-- Make a call that nobody can refuse. -/
def announce (p : Platform) (c : Call) : Platform :=
  p.push (.call c none)

end Platform

/-- A step against the platform that can fail. -/
abbrev Act (α : Type) := ExceptT Failure (StateM Platform) α

/-- Take a step: its outcome, and the platform afterwards. -/
def Platform.perform (p : Platform) (a : Act α) : Except Failure α × Platform :=
  StateT.run (ExceptT.run a) p

namespace Act

/-- Make a call, which the platform may refuse. -/
def ask (c : Call) : Act Unit := do
  let p ← get
  match p.refuses p.past c with
  | none => set (p.push (.call c none))
  | some reason =>
    set (p.push (.call c (some (.refused reason))))
    throw ⟨none, .refused reason⟩

/-- Make a call that is not refused. -/
def announce (c : Call) : Act Unit :=
  modify (·.announce c)

/-- Give a notice. -/
def note (n : Notice) : Act Unit :=
  modify (·.note n)

/-- Say of a failure what was attempted. -/
def within (a : Attempt) (x : Act α) : Act α :=
  tryCatch x fun f => throw { f with attempt := some a }

/-- The outcome of a step that is not to end the steps after it. -/
def outcome (x : Act α) : Act (Except Failure α) :=
  tryCatch (Except.ok <$> x) (pure ∘ Except.error)

end Act

end FastPath

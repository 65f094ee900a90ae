import FastPath.Platform.Slot
import FastPath.Platform.Daemon

/-!
# Backends

A backend brings rules, bindings, quotas and counters to the fast path. There are three: one works
on the kernel tables, one has the daemon do it, and one only keeps counters and notes what it is
asked, for rehearsals. All of them note each request before they serve it.
-/

namespace FastPath

/-- How requests are served. -/
inductive Backend
  | tables
  | daemon
  | rehearsal
deriving DecidableEq

/-! ## On the kernel tables -/

namespace TableBackend

/-- Install a rule, replacing what is under its key. -/
def addRule (r : Rule) : Act Unit :=
  (Slot.downstream6.update r.key r.target).within (.installRule r)

/-- Delete a rule. -/
def removeRule (r : Rule) : Act Unit := do
  let found ← (Slot.downstream6.delete r.key).within (.deleteRule r)
  if !found then Act.note (.ruleNotInTable r)

/-- Bind a downstream interface to an upstream. -/
def startForwarding (d u : IfIndex) : Act Unit :=
  (Slot.upstream6.insert d (.binding u)).within (.insertBinding d u)

/-- Delete the binding of a downstream interface. -/
def stopForwarding (d u : IfIndex) : Act Unit := do
  let found ← (Slot.upstream6.delete d).within (.deleteBinding d u)
  if !found then Act.note (.bindingNotInTable d u)

/-- The traffic of every interface with counters. -/
def readAll : Act (List InterfaceTraffic) := do
  let all ← Slot.stats.entries.within .readStatsTable
  return all.map fun (i, c) => ⟨i, c.traffic⟩

/-- Set the limit of an interface. The first time its counters are created; later they must be
there. -/
def setQuota (i : IfIndex) (q : Quota) (isFirst : Bool) : Act Unit := do
  let existing ← (Slot.stats.get i).within (.readStats i)
  match isFirst, existing with
  | true, some _ => Act.note (.statsEntryKept i)
  | true, none => (Slot.stats.insert i .zero).within (.createStats i)
  | false, some _ => pure ()
  | false, none => throw ⟨none, .statsMissing i⟩
  (Slot.limit.update i q).within (.updateLimit i)

/-- Read the counters of an interface and delete them with its limit. Once the counters are deleted
they are reported, whatever becomes of the limit. -/
def readAndClear (i : IfIndex) : Act InterfaceTraffic := do
  match ← (Slot.stats.get i).within (.readStats i) with
  | none => throw ⟨none, .noStats i⟩
  | some counters =>
    let _ ← (Slot.stats.delete i).within (.deleteStats i)
    match ← (Slot.limit.delete i).outcome with
    | .ok true => pure ()
    | .ok false => Act.note (.noLimitEntry i)
    | .error f => Act.note (.limitNotDeleted i f)
    return ⟨i, counters.traffic⟩

/-- Clear one table; the reason when that is refused. -/
def clearTable (label : TableLabel) (clear : Act Unit) : Act (List (TableLabel × String)) := do
  match ← clear.outcome with
  | .ok () => return []
  | .error f => return [(label, f.text)]

/-- Clear all tables, each whatever becomes of the others. -/
def clearAll : Act Unit := do
  let refusals := [
    ← clearTable .downstream4 Slot.downstream4.clear,
    ← clearTable .upstream4 Slot.upstream4.clear,
    ← clearTable .downstream6 Slot.downstream6.clear,
    ← clearTable .upstream6 Slot.upstream6.clear,
    ← clearTable .stats Slot.stats.clear,
    ← clearTable .limit Slot.limit.clear].flatten
  if refusals.isEmpty then Act.note .tablesCleared
  else throw ⟨none, .tablesNotCleared refusals⟩

end TableBackend

/-! ## All backends -/

namespace Backend

/-- The mode that a backend reports. -/
def mode : Backend → Mode
  | tables | rehearsal => .mapBased
  | daemon => .legacy

/-- Note a request. In a rehearsal the platform may refuse it. -/
def receive (b : Backend) (r : Request) : Act Unit :=
  match b with
  | rehearsal => Act.ask (.request r)
  | _ => Act.announce (.request r)

/-- Install a rule. -/
def addRule (b : Backend) (r : Rule) : Act Unit := do
  b.receive (.addRule r)
  match b with
  | tables => TableBackend.addRule r
  | daemon => (Daemon.ruleAdd r.parcel).within (.daemonAddRule r)
  | rehearsal => pure ()

/-- Remove a rule. -/
def removeRule (b : Backend) (r : Rule) : Act Unit := do
  b.receive (.removeRule r)
  match b with
  | tables => TableBackend.removeRule r
  | daemon => (Daemon.ruleRemove r.parcel).within (.daemonRemoveRule r)
  | rehearsal => pure ()

/-- Replace a rule by another. -/
def updateRule (b : Backend) (old new : Rule) : Act Unit := do
  b.removeRule old
  b.addRule new

/-- Bind a downstream interface to an upstream. The daemon sees to that by itself. -/
def startForwarding (b : Backend) (d u : IfIndex) : Act Unit := do
  b.receive (.startForwarding d u)
  match b with
  | tables => TableBackend.startForwarding d u
  | _ => pure ()

/-- Remove the binding of a downstream interface. -/
def stopForwarding (b : Backend) (d u : IfIndex) : Act Unit := do
  b.receive (.stopForwarding d u)
  match b with
  | tables => TableBackend.stopForwarding d u
  | _ => pure ()

/-- The traffic of every interface with counters. A backend promises no order of the interfaces, and
no reading depends on another one: each goes into the record of its own interface. -/
def readAll (b : Backend) : Act (List InterfaceTraffic) := do
  b.receive .readAll
  match b with
  | tables => TableBackend.readAll
  | daemon => Daemon.getStats.within .daemonReport
  | rehearsal => return (← get).daemon.stats.toList.map fun (i, t) => ⟨i, t⟩

/-- Set the limit of an upstream, for the first time or again. -/
def setQuota (b : Backend) (i : IfIndex) (q : Quota) (isFirst : Bool) : Act Unit := do
  b.receive (.setQuota i q isFirst)
  match b with
  | tables => TableBackend.setQuota i q isFirst
  | daemon => (Daemon.setQuota i q).within (.daemonSetQuota i)
  | rehearsal => pure ()

/-- Read the counters of an upstream and drop them with its limit. -/
def readAndClear (b : Backend) (i : IfIndex) : Act InterfaceTraffic := do
  b.receive (.readAndClear i)
  match b with
  | tables => TableBackend.readAndClear i
  | daemon => (Daemon.getAndClear i).within (.daemonClearStats i)
  | rehearsal =>
    let stats := (← get).daemon.stats
    Daemon.change fun d => { d with stats := d.stats.erase i }
    return ⟨i, stats.getD i .zero⟩

/-- Drop everything that an earlier run left behind. -/
def clearAll (b : Backend) : Act Unit := do
  b.receive .clearAll
  match b with
  | tables => TableBackend.clearAll
  | _ => pure ()

end Backend

/-- What a backend can be built from. -/
inductive Source
  /-- The kernel tables that could be opened. -/
  | tables (opened : TableLabel → Bool)
  /-- The daemon, if it can be reached. -/
  | daemon (reachable : Bool)

namespace Source

/-- The tables that could not be opened. -/
def missing (opened : TableLabel → Bool) : List TableLabel :=
  TableLabel.all.filter fun t => !opened t

/-- Choose a backend, or none when offload has to stay off, and say so. -/
def select (enabled : Bool) (s : Source) : Option Backend × Notice :=
  if !enabled then (none, .disabledByConfig)
  else match s with
    | tables opened =>
      match missing opened with
      | [] => (some .tables, .usingBackend .mapBased)
      | ts => (none, .tablesUnavailable ts)
    | daemon true => (some .daemon, .usingBackend .legacy)
    | daemon false => (none, .daemonUnavailable)

end Source

end FastPath

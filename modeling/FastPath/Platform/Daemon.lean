import FastPath.Platform.Basic

/-!
# The offload daemon

The daemon owns the forwarding tables and is called for each change. Adding a rule replaces one with
the same input and destination, and removing one that is not there succeeds. The final counters of
an interface may be reported under another index.
-/

namespace FastPath

/-- The key of a parcel in the daemon's table. -/
def Parcel.key (p : Parcel) : RuleKey := ⟨p.input, p.destination⟩

namespace Daemon

/-- Change what the daemon keeps. -/
def change (f : DaemonTables → DaemonTables) : Act Unit :=
  modify fun p => { p with daemon := f p.daemon }

/-- Count traffic of an interface, as the kernel does. -/
def setStats (i : IfIndex) (t : Traffic) (d : DaemonTables) : DaemonTables :=
  { d with stats := d.stats.insert i t }

/-- Forget the traffic of an interface. -/
def dropStats (i : IfIndex) (d : DaemonTables) : DaemonTables :=
  { d with stats := d.stats.erase i }

/-- Report the final counters of an interface under another index. -/
def report (i as : IfIndex) (d : DaemonTables) : DaemonTables :=
  { d with reportedAs := d.reportedAs.insert i as }

/-- Install a rule. -/
def ruleAdd (parcel : Parcel) : Act Unit := do
  Act.ask (.daemon (.ruleAdd parcel))
  change fun d => { d with rules := d.rules.insert parcel.key parcel }

/-- Remove a rule. -/
def ruleRemove (parcel : Parcel) : Act Unit := do
  Act.ask (.daemon (.ruleRemove parcel))
  change fun d => { d with rules := d.rules.erase parcel.key }

/-- The traffic of every interface. The daemon may report them in any order, the ascending one is a
choice that nothing goes by. -/
def getStats : Act (List InterfaceTraffic) := do
  Act.ask (.daemon .getStats)
  return (← get).daemon.stats.toList.map fun (i, t) => ⟨i, t⟩

/-- Set the quota of an interface. -/
def setQuota (i : IfIndex) (q : Quota) : Act Unit := do
  Act.ask (.daemon (.setQuota i q))
  change fun d => { d with quotas := d.quotas.insert i q }

/-- Read and drop the traffic and the quota of an interface. -/
def getAndClear (i : IfIndex) : Act InterfaceTraffic := do
  Act.ask (.daemon (.getAndClear i))
  let d := (← get).daemon
  change fun d => { d with stats := d.stats.erase i, quotas := d.quotas.erase i }
  return ⟨d.reportedAs.getD i i, d.stats.getD i .zero⟩

end Daemon

end FastPath

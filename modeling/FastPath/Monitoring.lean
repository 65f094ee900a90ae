import FastPath.Platform.Basic
import Std.Data.ExtTreeSet

/-!
# Monitoring of tracked connections

The monitor runs while at least one downstream wants it. It is started for the first and stopped
after the last; a start that failed is not made up for by the downstreams that follow.
-/

namespace FastPath

open Std

/-- The downstreams that want the monitor, and whether it runs. -/
structure Monitoring where
  active : ExtTreeSet DownstreamId
  running : Bool

namespace Monitoring

/-- Nobody wants the monitor. -/
def empty : Monitoring := ⟨∅, false⟩

/-- A downstream wants the monitor. -/
def add (d : DownstreamId) (m : Monitoring) (p : Platform) : Monitoring × Platform :=
  if d ∈ m.active then (m, p.note (.downstreamMonitored d))
  else
    let m := { m with active := m.active.insert d }
    if m.active.size = 1 ∧ !m.running then
      match p.perform (Act.ask .startMonitor) with
      | (.ok (), p) => ({ m with running := true }, p)
      | (.error f, p) => (m, p.note (.monitorNotStarted f))
    else (m, p)

/-- A downstream no longer wants the monitor. -/
def remove (d : DownstreamId) (m : Monitoring) (p : Platform) : Monitoring × Platform :=
  if d ∈ m.active then
    let m := { m with active := m.active.erase d }
    if m.active.isEmpty ∧ m.running then
      ({ m with running := false }, p.announce .stopMonitor)
    else (m, p)
  else (m, p.note (.downstreamNotMonitored d))

/-- No downstream wants the monitor any more. -/
def removeAll (m : Monitoring) (p : Platform) : Monitoring × Platform :=
  m.active.toList.foldl (fun (m, p) d => remove d m p) (m, p)

end Monitoring

end FastPath

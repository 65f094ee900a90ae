import FastPath.Traffic
import FastPath.Quota
import Std.Data.ExtTreeMap

/-!
# Upstreams

The table holds one record for each upstream interface that a rule, a name or a reading has been
about: its name, its traffic as last read and as published, its limit, its alert and how many live
rules use it. A record that appears takes the alert over from the table.
-/

namespace FastPath

open Std

/-- What is known of one upstream. -/
structure Upstream where
  name : Option String
  /-- The counters as last read. -/
  lastRead : Traffic
  /-- The counters as of the last publication. -/
  published : Traffic
  /-- Traffic of cleared counters that is not published yet. -/
  pending : Traffic
  /-- The data limit. -/
  quota : Quota
  /-- The alert threshold; the quota for none disarms the alert. -/
  alert : Quota
  alertFired : Bool
  /-- How many live rules use the upstream. -/
  ruleCount : Nat
deriving DecidableEq

namespace Upstream

/-- An upstream about which nothing is known, with the given alert. -/
def fresh (alert : Quota) (alertFired : Bool) : Upstream :=
  ⟨none, .zero, .zero, .zero, .unlimited, alert, alertFired, 0⟩

/-- The alert is armed, has not fired, and the traffic read is at the threshold or beyond. -/
def alertReached (u : Upstream) : Bool :=
  u.alert ≠ .unlimited && !u.alertFired && u.alert.toUInt64 ≤ u.lastRead.totalBytes

/-- The traffic since the last publication. -/
def unpublished (u : Upstream) : Traffic :=
  (u.lastRead.since u.published).add u.pending

/-- The upstream once its traffic has been published. -/
def settle (u : Upstream) : Upstream :=
  { u with published := u.lastRead, pending := .zero }

/-- The upstream once its counters have been cleared, with `last` as their final reading. What it
adds to the published traffic is pending, and counting starts from zero. -/
def fold (u : Upstream) (last : Traffic) : Upstream :=
  { u with
    pending := u.pending.add (last.since u.published)
    lastRead := .zero
    published := .zero
    alertFired := false }

end Upstream

/-- The upstreams by index, and the alert that new ones take over. -/
structure UpstreamTable where
  records : ExtTreeMap IfIndex Upstream
  defaultAlert : Quota
  defaultAlertFired : Bool
deriving DecidableEq

namespace UpstreamTable

/-- A table without records, with the alert disarmed. -/
def empty : UpstreamTable := ⟨∅, .unlimited, false⟩

/-- The record that an upstream starts with. -/
def fresh (t : UpstreamTable) : Upstream :=
  .fresh t.defaultAlert t.defaultAlertFired

/-- The record of an upstream, as it is or as it would start. -/
def findOrFresh (t : UpstreamTable) (i : IfIndex) : Upstream :=
  t.records[i]?.getD t.fresh

/-- Put a record into the table. -/
def set (t : UpstreamTable) (i : IfIndex) (u : Upstream) : UpstreamTable :=
  { t with records := t.records.insert i u }

/-- Change the record of an upstream, which is created if need be. -/
def modify (t : UpstreamTable) (i : IfIndex) (f : Upstream → Upstream) : UpstreamTable :=
  t.set i (f (t.findOrFresh i))

/-- The first upstream with a name. -/
def findByName (t : UpstreamTable) (name : String) : Option IfIndex :=
  (t.records.toList.find? fun (_, u) => u.name = some name).map Prod.fst

/-- The name of an upstream. -/
def nameOf (t : UpstreamTable) (i : IfIndex) : Option String :=
  t.records[i]?.bind Upstream.name

/-- Name an upstream. -/
def setName (t : UpstreamTable) (i : IfIndex) (name : String) : UpstreamTable :=
  t.modify i fun u => { u with name := some name }

/-- How many live rules use an upstream. -/
def ruleCount (t : UpstreamTable) (i : IfIndex) : Nat :=
  (t.records[i]?.map Upstream.ruleCount).getD 0

/-- Count one more rule. -/
def acquire (t : UpstreamTable) (i : IfIndex) : UpstreamTable :=
  t.modify i fun u => { u with ruleCount := u.ruleCount + 1 }

/-- Count one rule less, if there is one to count. -/
def release (t : UpstreamTable) (i : IfIndex) : UpstreamTable :=
  if t.ruleCount i = 0 then t
  else t.modify i fun u => { u with ruleCount := u.ruleCount - 1 }

/-- Store a reading. -/
def recordReading (t : UpstreamTable) (reading : InterfaceTraffic) : UpstreamTable :=
  t.modify reading.ifIndex fun u => { u with lastRead := reading.traffic }

/-- Store the final reading of cleared counters. -/
def foldFinal (t : UpstreamTable) (last : InterfaceTraffic) : UpstreamTable :=
  t.modify last.ifIndex fun u => u.fold last.traffic

/-- The unpublished traffic of every named upstream. -/
def deltas (t : UpstreamTable) : List (String × Traffic) :=
  t.records.toList.filterMap fun (_, u) => u.name.map (·, u.unpublished)

/-- The table once the traffic of every named upstream has been published. -/
def settle (t : UpstreamTable) : UpstreamTable :=
  { t with records := t.records.map fun _ u => if u.name.isSome then u.settle else u }

/-- Arm the alert of every upstream, or disarm it. -/
def setAlert (t : UpstreamTable) (alert : Quota) : UpstreamTable where
  records := t.records.map fun _ u => { u with alert, alertFired := false }
  defaultAlert := alert
  defaultAlertFired := false

/-- The upstreams whose alert is reached, with their traffic in bytes. -/
def reached (t : UpstreamTable) : List (IfIndex × UInt64) :=
  t.records.toList.filterMap fun (i, u) =>
    if u.alertReached then some (i, u.lastRead.totalBytes) else none

/-- The table once every alert that is reached has fired. -/
def fire (t : UpstreamTable) : UpstreamTable :=
  { t with
    records := t.records.map fun _ u =>
      if u.alertReached then { u with alertFired := true } else u }

end UpstreamTable

end FastPath

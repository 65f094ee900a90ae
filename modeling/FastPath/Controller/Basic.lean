import FastPath.Attachment
import FastPath.Backend
import FastPath.Monitoring
import FastPath.Upstream

/-!
# State of the controller

The controller keeps the rules of every downstream, the upstreams that they use, the limits that
wait for their upstream, and the state of polling, attachment and monitoring. Without a backend
offload is off for good.
-/

namespace FastPath

open Std

/-- The rules of each downstream, in the order in which they were added. -/
structure Registry where
  byDownstream : ExtTreeMap DownstreamId (List Rule)
deriving DecidableEq

namespace Registry

/-- No rules. -/
def empty : Registry := ⟨∅⟩

/-- The rules of a downstream. -/
def rulesFor (r : Registry) (d : DownstreamId) : List Rule :=
  r.byDownstream.getD d []

/-- The downstreams that have had rules since they were last cleared. -/
def downstreams (r : Registry) : List DownstreamId :=
  r.byDownstream.keys

/-- The rules of all downstreams. -/
def live (r : Registry) : List Rule :=
  r.byDownstream.toList.flatMap Prod.snd

/-- How many rules send traffic out of an interface. -/
def rulesOn (r : Registry) (i : IfIndex) : Nat :=
  r.live.countP fun rule => rule.downstream = i

/-- The rule of a downstream for a neighbor. -/
def find? (r : Registry) (d : DownstreamId) (neighbor : Ipv6) : Option Rule :=
  (r.rulesFor d).find? fun rule => rule.neighbor = neighbor

/-- Append a rule to those of a downstream. -/
def push (r : Registry) (d : DownstreamId) (rule : Rule) : Registry :=
  ⟨r.byDownstream.insert d (r.rulesFor d ++ [rule])⟩

/-- Take out the rule of a downstream for a neighbor. -/
def erase (r : Registry) (d : DownstreamId) (neighbor : Ipv6) : Registry :=
  ⟨r.byDownstream.insert d ((r.rulesFor d).eraseP fun rule => rule.neighbor = neighbor)⟩

/-- Forget a downstream. -/
def forget (r : Registry) (d : DownstreamId) : Registry :=
  ⟨r.byDownstream.erase d⟩

end Registry

/-- Whether and how often counters are polled. -/
structure Polling where
  /-- The interval asked for, in milliseconds. -/
  configuredMs : UInt64
  on : Bool
  /-- Grows whenever polling is started or stopped. -/
  generation : Nat
deriving DecidableEq

/-- The interval of the next polls, in milliseconds. -/
def Polling.interval (p : Polling) : Nat :=
  effectiveInterval p.configuredMs

/-- The controller and the platform it works against. -/
structure Controller where
  platform : Platform
  /-- How requests are served; `none` when offload is off. -/
  backend : Option Backend
  registry : Registry
  upstreams : UpstreamTable
  /-- Limits whose upstream has not been named yet. -/
  pendingLimits : ExtTreeMap String Quota
  polling : Polling
  attachments : Attachments
  monitoring : Monitoring

namespace Controller

/-- A controller at work on nothing. -/
def idle (p : Platform) (b : Option Backend) (intervalMs : UInt64) (attacher : Bool) :
    Controller where
  platform := p
  backend := b
  registry := .empty
  upstreams := .empty
  pendingLimits := ∅
  polling := ⟨intervalMs, false, 0⟩
  attachments := .empty attacher
  monitoring := .empty

/-- Give a notice. -/
def note (c : Controller) (n : Notice) : Controller :=
  { c with platform := c.platform.note n }

/-- Make a call that is not refused. -/
def announce (c : Controller) (call : Call) : Controller :=
  { c with platform := c.platform.announce call }

/-- Take the journal as it stands; a new one begins. -/
def takeJournal (c : Controller) : List Entry × Controller :=
  (c.platform.journal, { c with platform := { c.platform with past := [] } })

/-- Take a step against the platform. -/
def perform (c : Controller) (a : Act α) : Except Failure α × Controller :=
  let (r, p) := c.platform.perform a
  (r, { c with platform := p })

/-- Take a step against the platform and give a notice if it fails. -/
def attempt (c : Controller) (a : Act Unit) (failed : Failure → Notice) : Controller :=
  match c.perform a with
  | (.ok (), c) => c
  | (.error f, c) => c.note (failed f)

/-- The rules of a downstream. -/
def rulesFor (c : Controller) (d : DownstreamId) : List Rule :=
  c.registry.rulesFor d

end Controller

end FastPath

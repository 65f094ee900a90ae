import FastPath.Controller.Forwarding
import FastPath.Controller.Limits
import FastPath.Controller.Statistics

/-!
# Requests

What callers may ask of a controller. Without a backend every request is answered and none has an
effect, except that polling is stopped and its interval is remembered. A quota is checked either
way.
-/

namespace FastPath

namespace Controller

/-- Offload is on. -/
def enabled (c : Controller) : Bool :=
  c.backend.isSome

/-- Make a change that needs the backend, if there is one. -/
def withBackend (f : Backend → Controller → Controller) (c : Controller) : Controller :=
  match c.backend with
  | some b => f b c
  | none => c

/-! ## Rules -/

/-- Add a rule to a downstream. The result says whether the rule is now live. -/
def addRule (d : DownstreamId) (rule : Rule) (c : Controller) : Bool × Controller :=
  match c.backend with
  | some b => c.install b d rule
  | none => (false, c)

/-- Remove the rule that a downstream has for the neighbor of the given one. The result says whether
a rule is gone. -/
def removeRule (d : DownstreamId) (rule : Rule) (c : Controller) : Bool × Controller :=
  match c.backend with
  | some b => c.uninstall b d rule.neighbor
  | none => (false, c)

/-- Move the rules of a downstream to another upstream. -/
def updateRules (d : DownstreamId) (u : IfIndex) : Controller → Controller :=
  withBackend fun b => rebind b d u

/-- Remove the rules of a downstream. -/
def clearRules (d : DownstreamId) : Controller → Controller :=
  withBackend fun b => flush b d

/-! ## Upstreams and limits -/

/-- Tell the name of an upstream. -/
def addUpstreamName (i : IfIndex) (name : String) : Controller → Controller :=
  withBackend fun b => nameUpstream b i name

/-- A downstream moved to another upstream, or lost the one it had. -/
def upstreamChanged (d : DownstreamId) (u : Option UpstreamInfo) (c : Controller) : Controller :=
  match u with
  | some info => (c.addUpstreamName info.ifIndex info.name).updateRules d info.ifIndex
  | none => c.clearRules d

/-- Set the data limit of the interface with a name. -/
def setLimit (iface : String) (q : Quota) (c : Controller) :
    Except RequestError Unit × Controller :=
  match c.backend with
  | some b => c.limit b iface q
  | none => (q.check, c)

/-! ## Statistics -/

/-- Arm the alert, or disarm it. -/
def setAlert (q : Quota) (c : Controller) : Except RequestError Unit × Controller :=
  if c.enabled then c.armAlert q else (q.check, c)

/-- Start polling. The result is the interval in milliseconds, or `none` when offload is off. -/
def startPolling (c : Controller) : Option Nat × Controller :=
  if c.enabled then
    let (ms, c) := c.beginPolling
    (some ms, c)
  else (none, c)

/-- Stop polling. -/
def stopPolling (c : Controller) : Controller :=
  c.endPolling

/-- Ask for another polling interval. -/
def setPollInterval (ms : UInt64) (c : Controller) : Controller :=
  { c with polling := { c.polling with configuredMs := ms } }

/-- Serve one tick of the poll timer. -/
def tick : Controller → Controller :=
  withBackend poll

/-- Publish the traffic since the last publication. -/
def pushStats : Controller → Controller :=
  withBackend fun _ => publish

/-! ## Programs and connections -/

/-- Change what is attached. -/
def changeAttachments (f : Attachments → Platform → Attachments × Platform) :
    Controller → Controller :=
  withBackend fun _ c =>
    let (attachments, platform) := f c.attachments c.platform
    { c with attachments, platform }

/-- Change what is monitored. -/
def changeMonitoring (f : Monitoring → Platform → Monitoring × Platform) :
    Controller → Controller :=
  withBackend fun _ c =>
    let (monitoring, platform) := f c.monitoring c.platform
    { c with monitoring, platform }

/-- Attach the forwarding programs of a pair. -/
def attach (pair : Pair) : Controller → Controller :=
  changeAttachments (Attachments.attach pair)

/-- Detach the forwarding programs of a pair. -/
def detach (pair : Pair) : Controller → Controller :=
  changeAttachments (Attachments.detach pair)

/-- Monitor connections for a downstream. -/
def addDownstream (d : DownstreamId) : Controller → Controller :=
  changeMonitoring (Monitoring.add d)

/-- Stop monitoring connections for a downstream. Its rules stay. -/
def removeDownstream (d : DownstreamId) : Controller → Controller :=
  changeMonitoring (Monitoring.remove d)

end Controller

end FastPath

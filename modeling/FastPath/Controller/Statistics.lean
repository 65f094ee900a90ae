import FastPath.Controller.Basic

/-!
# Reading, publishing and alerts

A poll stores the counters of every upstream and checks the alert. A publication tells of the
traffic of every named upstream since the one before, unless there was none. The alert tells at most
once of each upstream that reaches the threshold; a threshold of zero is reached even without
upstreams.
-/

namespace FastPath

namespace Controller

/-- The alert of a threshold of zero tells of itself while no upstream is known. -/
def reachedWithoutUpstreams (t : UpstreamTable) : Bool :=
  t.defaultAlert = 0 && t.records.isEmpty && !t.defaultAlertFired

/-- Tell if the alert is reached on an upstream that it has not told of. -/
def checkAlert (c : Controller) : Controller :=
  let reached := c.upstreams.reached
  let told := !reached.isEmpty || reachedWithoutUpstreams c.upstreams
  let upstreams := c.upstreams.fire
  let c := reached.foldl (fun c (i, bytes) => c.note (.alertReached i bytes)) c
  let c := { c with upstreams :=
    { upstreams with
      defaultAlertFired :=
        upstreams.defaultAlertFired || (told && upstreams.defaultAlert = 0) } }
  if told then c.announce .alert else c

/-- Read the counters of all upstreams and check the alert. -/
def poll (b : Backend) (c : Controller) : Controller :=
  match c.perform b.readAll with
  | (.ok readings, c) =>
    { c with upstreams := readings.foldl UpstreamTable.recordReading c.upstreams }.checkAlert
  | (.error f, c) => (c.note (.pollFailed f)).checkAlert

/-- The published shares of traffic with one owner. -/
def shares (owner : Owner) (deltas : List (String × Traffic)) : List Share :=
  deltas.map fun (iface, traffic) => ⟨iface, owner, traffic⟩

/-- Publish the traffic of every named upstream since the last publication. -/
def publish (c : Controller) : Controller :=
  let deltas := c.upstreams.deltas
  let c := { c with upstreams := c.upstreams.settle }
  if deltas.all fun (_, t) => t = .zero then c.note .nothingToPublish
  else c.announce (.publish (shares .interface deltas) (shares .tethering deltas))

/-- Arm the alert, or disarm it, and check it right away. -/
def armAlert (q : Quota) (c : Controller) : Except RequestError Unit × Controller :=
  match q.check with
  | .error e => (.error e, c)
  | .ok () =>
    let c := { c with upstreams := c.upstreams.setAlert q }
    let c := c.note (if q = .unlimited then .alertDisarmed else .alertArmed q)
    (.ok (), c.checkAlert)

/-- Start polling, or start it anew. The result is the interval in milliseconds. -/
def beginPolling (c : Controller) : Nat × Controller :=
  let c := { c with polling :=
    { c.polling with on := true, generation := c.polling.generation + 1 } }
  (c.polling.interval, c.note (.pollingEvery c.polling.interval))

/-- Stop polling. -/
def endPolling (c : Controller) : Controller :=
  let c := if c.polling.on then c.note .pollingStopped else c
  { c with polling := { c.polling with on := false, generation := c.polling.generation + 1 } }

end Controller

end FastPath

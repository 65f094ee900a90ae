import FastPath.Controller.Basic
import FastPath.Text.Line

/-!
# Dump of a controller's state

A dump is a list of lines for people to read. Rules, upstreams and pairs are in the order of their
keys. Limits that wait for an upstream are in the order of the platform's listing, which is not
fixed: two controllers in the same state can list them differently.
-/

namespace FastPath

open FastPath.Text

/-- The description of traffic in a dump. -/
def Traffic.describe (t : Traffic) : String :=
  described "ForwardedStats"
    [("rx_bytes", toString t.rxBytes.toNat), ("rx_packets", toString t.rxPackets.toNat),
     ("tx_bytes", toString t.txBytes.toNat), ("tx_packets", toString t.txPackets.toNat)]

/-- The line of an upstream. -/
def Upstream.describe (i : IfIndex) (u : Upstream) : String :=
  let name := u.name.getD "?"
  let read := u.lastRead.describe
  s!"  {i.toNat} ({name}): rules={u.ruleCount} quota={u.quota.toInt} alert={u.alert.toInt} " ++
    s!"read={read}"

namespace Controller

/-- The lines of the rules of each downstream. -/
def ruleLines (c : Controller) : List String :=
  c.registry.byDownstream.toList.flatMap fun (d, rules) =>
    s!"  {d}:" :: rules.map fun r => s!"    {r.text}"

/-- The lines of the upstreams. -/
def upstreamLines (c : Controller) : List String :=
  c.upstreams.records.toList.map fun (i, u) => u.describe i

/-- The lines of the limits that wait for an upstream. -/
def pendingLines (l : Listing) (c : Controller) : List String :=
  (l.list c.pendingLimits).map fun (iface, q) => s!"  pending limit {q.toInt} for {iface}"

/-- The lines of the limits that wait, in the order of the platform. -/
def ownPendingLines (c : Controller) : List String :=
  c.pendingLines c.platform.listing

/-- The lines of the attached pairs. -/
def pairLines (c : Controller) : List String :=
  c.attachments.pairs.toList.map fun pair => s!"  {pair.internal} <-> {pair.external}"

/-- The first line of a dump. -/
def modeLine (c : Controller) : String :=
  let mode := c.backend.elim "disabled" fun b => b.mode.text
  s!"Offload: {mode}"

/-- The lines between the first one and the limits that wait. -/
def linesBefore (c : Controller) : List String :=
  let polling := if c.polling.on then "on" else "off"
  let every := duration c.polling.interval
  [s!"Polling: {polling} (every {every})", "Forwarding rules:"] ++ c.ruleLines ++
    ["Upstreams:"] ++ c.upstreamLines

/-- The lines after the limits that wait. -/
def linesAfter (c : Controller) : List String :=
  let monitor := if c.monitoring.running then "running" else "stopped"
  ["Attached pairs:"] ++ c.pairLines ++
    [s!"Conntrack: {c.monitoring.active.size} downstreams, monitor {monitor}"]

/-- The lines of a dump, with limits listed as said. Those that wait for an upstream come after the
upstreams. -/
def dumpLines (l : Listing) (c : Controller) : List String :=
  c.modeLine :: c.linesBefore ++ c.pendingLines l ++ c.linesAfter

/-- The state of a controller as a text, with limits listed as said. -/
def dumpBy (l : Listing) (c : Controller) : String :=
  unlines (c.dumpLines l)

/-- The state of a controller as a text, with limits in the order in which the platform lists
them. -/
def dump (c : Controller) : String :=
  c.dumpBy c.platform.listing

end Controller

end FastPath

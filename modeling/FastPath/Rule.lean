import FastPath.Address.Mac
import FastPath.Address.Ipv6
import FastPath.Json.Decode
import FastPath.Traffic

/-!
# Forwarding rules

A rule sends the traffic that arrives on an upstream for a neighbor out of a downstream interface,
with the hardware addresses of that link. A rule does not change; moving it to another upstream
makes a new one.
-/

namespace FastPath

/-- The name by which a caller knows a downstream. -/
abbrev DownstreamId := String

/-- One forwarding rule. -/
structure Rule where
  /-- The interface that the traffic arrives on. -/
  upstream : IfIndex
  /-- The interface that the traffic leaves by. -/
  downstream : IfIndex
  /-- The destination of the traffic. -/
  neighbor : Ipv6
  /-- The hardware address of the downstream interface, the source on the link. -/
  downstreamMac : Mac
  /-- The hardware address of the neighbor, the destination on the link. -/
  neighborMac : Mac
deriving DecidableEq

namespace Rule

/-- The same rule on another upstream. -/
def onUpstream (r : Rule) (upstream : IfIndex) : Rule :=
  { r with upstream }

/-- The text of a rule. -/
def text (r : Rule) : String :=
  s!"{r.neighbor.text} via {r.upstream} -> {r.downstream} " ++
    s!"[{r.downstreamMac.text} -> {r.neighborMac.text}]"

/-- The fields of a rule in declared order. -/
def fieldNames : List String :=
  ["upstream_if_index", "downstream_if_index", "neighbor", "downstream_mac", "neighbor_mac"]

/-- Write a rule. -/
def toJson (r : Rule) : Json :=
  .object
    [("upstream_if_index", .ofWord32 r.upstream), ("downstream_if_index", .ofWord32 r.downstream),
     ("neighbor", .string r.neighbor.text), ("downstream_mac", .string r.downstreamMac.text),
     ("neighbor_mac", .string r.neighborMac.text)]

/-- Read a version 6 address. -/
def neighbor? (v : Json) : Option Ipv6 :=
  v.text?.bind Ipv6.parse?

/-- Read a hardware address. -/
def mac? (v : Json) : Option Mac :=
  v.text?.bind fun s => (Mac.parse s).toOption

/-- Read a rule. -/
def ofJson? (v : Json) : Option Rule := do
  let fs ← v.fields? fieldNames
  return {
    upstream := ← Json.required fs "upstream_if_index" Json.word32?
    downstream := ← Json.required fs "downstream_if_index" Json.word32?
    neighbor := ← Json.required fs "neighbor" neighbor?
    downstreamMac := ← Json.required fs "downstream_mac" mac?
    neighborMac := ← Json.required fs "neighbor_mac" mac? }

end Rule

/-- A rule as the offload daemon takes it: from the input interface to the output interface, for a
range of destinations. -/
structure Parcel where
  input : IfIndex
  output : IfIndex
  destination : Ipv6
  bits : UInt8
  source : Mac
  target : Mac
deriving DecidableEq

/-- The parcel of a rule, for its neighbor alone. -/
def Rule.parcel (r : Rule) : Parcel where
  input := r.upstream
  output := r.downstream
  destination := r.neighbor
  bits := 128
  source := r.downstreamMac
  target := r.neighborMac

/-- The text of a parcel. -/
def Parcel.text (p : Parcel) : String :=
  s!"{p.input} {p.output} {p.destination.text}/{p.bits} {p.source.text} {p.target.text}"

end FastPath

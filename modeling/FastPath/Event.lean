import FastPath.Json.Reader
import FastPath.Json.Printer
import FastPath.Rule
import FastPath.Quota
import FastPath.Text.Quoted

/-!
# Events

An event asks the controller for one operation. It is written as a JSON object whose field `event`
names its kind, and read from such an object, with the field anywhere in it, or from an array that
starts with the kind and lists the other fields in order. A text with a value that denotes nothing,
or one that nests too deeply, is no event even where it would be skipped.
-/

namespace FastPath

open FastPath.Text

/-- The upstream that a downstream moves to. -/
structure UpstreamInfo where
  ifIndex : IfIndex
  name : String
deriving DecidableEq

/-- What the controller is asked for. -/
inductive Event
  | upstreamName (ifIndex : IfIndex) (name : String)
  | addRule (downstream : DownstreamId) (rule : Rule)
  | removeRule (downstream : DownstreamId) (rule : Rule)
  | updateRules (downstream : DownstreamId) (upstream : IfIndex)
  | clearRules (downstream : DownstreamId)
  | upstreamChanged (downstream : DownstreamId) (upstream : Option UpstreamInfo)
  | setLimit (iface : String) (quota : Quota)
  | setAlert (quota : Quota)
  | pushStats
  | startPolling
  | stopPolling
  | setPollInterval (ms : UInt64)
  | attach (internal external : String)
  | detach (internal external : String)
  | addDownstream (downstream : DownstreamId)
  | removeDownstream (downstream : DownstreamId)
  | dump
deriving DecidableEq

/-- Write an upstream. -/
def UpstreamInfo.toJson (u : UpstreamInfo) : Json :=
  .object [("if_index", .ofWord32 u.ifIndex), ("name", .string u.name)]

/-- Read an upstream. -/
def UpstreamInfo.ofJson? (v : Json) : Option UpstreamInfo := do
  let fs ← v.fields? ["if_index", "name"]
  return ⟨← Json.required fs "if_index" Json.word32?, ← Json.required fs "name" Json.text?⟩

namespace Event

/-- The kind of an event. -/
def kind : Event → String
  | upstreamName .. => "upstream_name"
  | addRule .. => "add_rule"
  | removeRule .. => "remove_rule"
  | updateRules .. => "update_rules"
  | clearRules .. => "clear_rules"
  | upstreamChanged .. => "upstream_changed"
  | setLimit .. => "set_limit"
  | setAlert .. => "set_alert"
  | pushStats => "push_stats"
  | startPolling => "start_polling"
  | stopPolling => "stop_polling"
  | setPollInterval .. => "set_poll_interval"
  | attach .. => "attach"
  | detach .. => "detach"
  | addDownstream .. => "add_downstream"
  | removeDownstream .. => "remove_downstream"
  | dump => "dump"

/-- The fields of an event besides its kind. -/
def fields : Event → List (String × Json)
  | upstreamName i name => [("if_index", .ofWord32 i), ("name", .string name)]
  | addRule d r | removeRule d r => [("downstream", .string d), ("rule", r.toJson)]
  | updateRules d u => [("downstream", .string d), ("upstream_if_index", .ofWord32 u)]
  | clearRules d | addDownstream d | removeDownstream d => [("downstream", .string d)]
  | upstreamChanged d u =>
    [("downstream", .string d), ("upstream", u.elim .null UpstreamInfo.toJson)]
  | setLimit iface q => [("iface", .string iface), ("quota_bytes", .ofSigned64 q)]
  | setAlert q => [("quota_bytes", .ofSigned64 q)]
  | setPollInterval ms => [("interval_ms", .ofWord64 ms)]
  | attach i e | detach i e => [("internal", .string i), ("external", .string e)]
  | pushStats | startPolling | stopPolling | dump => []

/-- Write an event. -/
def toJson (e : Event) : Json :=
  .object (("event", .string e.kind) :: e.fields)

/-- Read an event that holds nothing but the name of a downstream. -/
def ofDownstream? (make : DownstreamId → Event) (body : Json) : Option Event := do
  let fs ← body.fields? ["downstream"]
  return make (← Json.required fs "downstream" Json.text?)

/-- Read an event about a rule of a downstream. -/
def ofRule? (make : DownstreamId → Rule → Event) (body : Json) : Option Event := do
  let fs ← body.fields? ["downstream", "rule"]
  return make (← Json.required fs "downstream" Json.text?) (← Json.required fs "rule" Rule.ofJson?)

/-- Read an event about a pair of interfaces. -/
def ofPair? (make : String → String → Event) (body : Json) : Option Event := do
  let fs ← body.fields? ["internal", "external"]
  return make (← Json.required fs "internal" Json.text?) (← Json.required fs "external" Json.text?)

/-- Read an event without fields. -/
def ofNothing? (e : Event) (body : Json) : Option Event :=
  (body.fields? []).map fun _ => e

/-- Read an event of a given kind from the rest of its fields. -/
def ofKind? (kind : String) (body : Json) : Option Event :=
  match kind with
  | "upstream_name" => do
    let fs ← body.fields? ["if_index", "name"]
    return .upstreamName (← Json.required fs "if_index" Json.word32?)
      (← Json.required fs "name" Json.text?)
  | "add_rule" => ofRule? .addRule body
  | "remove_rule" => ofRule? .removeRule body
  | "update_rules" => do
    let fs ← body.fields? ["downstream", "upstream_if_index"]
    return .updateRules (← Json.required fs "downstream" Json.text?)
      (← Json.required fs "upstream_if_index" Json.word32?)
  | "clear_rules" => ofDownstream? .clearRules body
  | "upstream_changed" => do
    let fs ← body.fields? ["downstream", "upstream"]
    return .upstreamChanged (← Json.required fs "downstream" Json.text?)
      (← Json.optional fs "upstream" none (Json.nullable UpstreamInfo.ofJson?))
  | "set_limit" => do
    let fs ← body.fields? ["iface", "quota_bytes"]
    return .setLimit (← Json.required fs "iface" Json.text?)
      (← Json.required fs "quota_bytes" Json.signed64?)
  | "set_alert" => do
    let fs ← body.fields? ["quota_bytes"]
    return .setAlert (← Json.required fs "quota_bytes" Json.signed64?)
  | "push_stats" => ofNothing? .pushStats body
  | "start_polling" => ofNothing? .startPolling body
  | "stop_polling" => ofNothing? .stopPolling body
  | "set_poll_interval" => do
    let fs ← body.fields? ["interval_ms"]
    return .setPollInterval (← Json.required fs "interval_ms" Json.word64?)
  | "attach" => ofPair? .attach body
  | "detach" => ofPair? .detach body
  | "add_downstream" => ofDownstream? .addDownstream body
  | "remove_downstream" => ofDownstream? .removeDownstream body
  | "dump" => ofNothing? .dump body
  | _ => none

/-- The number of arrays and objects around a value at which an event nests too deeply. -/
def depthLimit : Nat := 128

/-- Read an event. -/
def ofJson? (v : Json) : Option Event :=
  if v.isSound ∧ v.depth < depthLimit then
    match v with
    | .array (.string kind :: items) => ofKind? kind (.array items)
    | .object fs =>
      match fs.filter fun f => f.1 = "event" with
      | [(_, .string kind)] => ofKind? kind (.object (fs.filter fun f => f.1 ≠ "event"))
      | _ => none
    | _ => none
  else none

/-- Read an event from a text. -/
def parse? (s : String) : Option Event :=
  (Json.read? s).bind ofJson?

/-- The text of an event. -/
def render (e : Event) : String :=
  e.toJson.compact

/-! ## Description for diagnostics -/

/-- The description of a downstream. -/
def describeDownstream (d : DownstreamId) : String × String :=
  ("downstream", "DownstreamId(" ++ quoted d ++ ")")

/-- The description of a hardware address: its octets as numbers. -/
def describeMac (m : Mac) : String :=
  "MacAddr([" ++ ", ".intercalate (m.octets.toList.map fun o => toString o.toNat) ++ "])"

/-- The description of a rule. -/
def describeRule (r : Rule) : String × String :=
  ("rule", described "ForwardingRule"
    [("upstream_if_index", toString r.upstream.toNat),
     ("downstream_if_index", toString r.downstream.toNat), ("neighbor", r.neighbor.text),
     ("downstream_mac", describeMac r.downstreamMac), ("neighbor_mac", describeMac r.neighborMac)])

/-- The description of an upstream, which may be none. -/
def describeUpstream : Option UpstreamInfo → String
  | none => "None"
  | some u => "Some(" ++ described "UpstreamInfo"
      [("if_index", toString u.ifIndex.toNat), ("name", quoted u.name)] ++ ")"

/-- The description of an event. -/
def describe : Event → String
  | upstreamName i name =>
    described "UpstreamName" [("if_index", toString i.toNat), ("name", quoted name)]
  | addRule d r => described "AddRule" [describeDownstream d, describeRule r]
  | removeRule d r => described "RemoveRule" [describeDownstream d, describeRule r]
  | updateRules d u =>
    described "UpdateRules" [describeDownstream d, ("upstream_if_index", toString u.toNat)]
  | clearRules d => described "ClearRules" [describeDownstream d]
  | upstreamChanged d u =>
    described "UpstreamChanged" [describeDownstream d, ("upstream", describeUpstream u)]
  | setLimit iface q =>
    described "SetLimit" [("iface", quoted iface), ("quota_bytes", toString q.toInt)]
  | setAlert q => described "SetAlert" [("quota_bytes", toString q.toInt)]
  | pushStats => "PushStats"
  | startPolling => "StartPolling"
  | stopPolling => "StopPolling"
  | setPollInterval ms => described "SetPollInterval" [("interval_ms", toString ms.toNat)]
  | attach i e => described "Attach" [("internal", quoted i), ("external", quoted e)]
  | detach i e => described "Detach" [("internal", quoted i), ("external", quoted e)]
  | addDownstream d => described "AddDownstream" [describeDownstream d]
  | removeDownstream d => described "RemoveDownstream" [describeDownstream d]
  | dump => "Dump"

end Event

end FastPath

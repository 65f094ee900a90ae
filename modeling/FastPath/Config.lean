import FastPath.Json.Decode
import FastPath.Json.Printer
import FastPath.Json.Reader
import FastPath.Quota
import FastPath.Text.Path
import Std.Data.ExtTreeMap

/-!
# Configuration

A configuration is written as one JSON object. Every field has a default, so an empty object is the
default configuration, and what is written reads back as the same configuration.
-/

namespace FastPath

open Std

/-- The shortest interval between two polls, in milliseconds; also the default. -/
def minInterval : Nat := 5000

/-- The interval that is used when one is asked for. -/
def effectiveInterval (ms : UInt64) : Nat :=
  max ms.toNat minInterval

/-- The six kernel tables. -/
inductive TableLabel
  | downstream4
  | upstream4
  | downstream6
  | upstream6
  | stats
  | limit
deriving DecidableEq

namespace TableLabel

/-- The tables in the order in which they are opened and cleared. -/
def all : List TableLabel := [downstream4, upstream4, downstream6, upstream6, stats, limit]

/-- The name of a table. -/
def text : TableLabel → String
  | downstream4 => "downstream4"
  | upstream4 => "upstream4"
  | downstream6 => "downstream6"
  | upstream6 => "upstream6"
  | stats => "stats"
  | limit => "limit"

end TableLabel

/-- The file names of the pinned tables. -/
structure TableNames where
  downstream4 : String
  upstream4 : String
  downstream6 : String
  upstream6 : String
  stats : String
  limit : String
deriving DecidableEq

namespace TableNames

/-- The usual names. -/
def default : TableNames where
  downstream4 := "map_offload_tether_downstream4_map"
  upstream4 := "map_offload_tether_upstream4_map"
  downstream6 := "map_offload_tether_downstream6_map"
  upstream6 := "map_offload_tether_upstream6_map"
  stats := "map_offload_tether_stats_map"
  limit := "map_offload_tether_limit_map"

/-- The name of one table. -/
def name (n : TableNames) : TableLabel → String
  | .downstream4 => n.downstream4
  | .upstream4 => n.upstream4
  | .downstream6 => n.downstream6
  | .upstream6 => n.upstream6
  | .stats => n.stats
  | .limit => n.limit

/-- Write the names. -/
def toJson (n : TableNames) : Json :=
  .object (TableLabel.all.map fun l => (l.text, .string (n.name l)))

/-- Read the names. -/
def ofJson? (v : Json) : Option TableNames := do
  let fs ← v.fields? (TableLabel.all.map TableLabel.text)
  return {
    downstream4 := ← Json.optional fs "downstream4" default.downstream4 Json.text?
    upstream4 := ← Json.optional fs "upstream4" default.upstream4 Json.text?
    downstream6 := ← Json.optional fs "downstream6" default.downstream6 Json.text?
    upstream6 := ← Json.optional fs "upstream6" default.upstream6 Json.text?
    stats := ← Json.optional fs "stats" default.stats Json.text?
    limit := ← Json.optional fs "limit" default.limit Json.text? }

end TableNames

/-- The configuration of the controller. -/
structure Config where
  /-- Whether forwarding is offloaded at all. -/
  offloadEnabled : Bool
  /-- The polling interval asked for, in milliseconds. -/
  pollIntervalMs : UInt64
  /-- The directory of the pinned tables. -/
  tableDir : String
  tableNames : TableNames
  /-- The object file with the forwarding programs, when interfaces are to get them. -/
  programObject : Option String
  /-- The program of interfaces that face downstreams. -/
  upstreamProgram : String
  /-- The program of upstream interfaces. -/
  downstreamProgram : String
  /-- The command that reports tracked connections. -/
  conntrackCommand : String
  /-- Data limits by the name of the upstream. -/
  dataLimits : ExtTreeMap String Quota

namespace Config

/-- The configuration of an empty file. -/
def default : Config where
  offloadEnabled := true
  pollIntervalMs := UInt64.ofNat minInterval
  tableDir := "/sys/fs/bpf/tethering"
  tableNames := .default
  programObject := none
  upstreamProgram := "sched_cls_tether_upstream6_ether"
  downstreamProgram := "sched_cls_tether_downstream6_ether"
  conntrackCommand := "conntrack"
  dataLimits := ∅

/-- The fields of a configuration in declared order. -/
def fieldNames : List String :=
  ["offload_enabled", "poll_interval_ms", "map_pin_dir", "map_names", "program_object",
   "upstream_program", "downstream_program", "conntrack_command", "data_limits"]

/-- Write limits, ascending by name. -/
def limitsJson (limits : ExtTreeMap String Quota) : Json :=
  .object (limits.toList.map fun (name, q) => (name, .ofSigned64 q))

/-- Read limits. Of two limits for one name the later one holds. -/
def limits? : Json → Option (ExtTreeMap String Quota)
  | .object fs => fs.foldlM (fun limits (name, v) => (v.signed64?).map (limits.insert name)) ∅
  | _ => none

/-- Write a configuration. -/
def toJson (c : Config) : Json :=
  .object
    [("offload_enabled", .bool c.offloadEnabled), ("poll_interval_ms", .ofWord64 c.pollIntervalMs),
     ("map_pin_dir", .string c.tableDir), ("map_names", c.tableNames.toJson),
     ("program_object", c.programObject.elim .null .string),
     ("upstream_program", .string c.upstreamProgram),
     ("downstream_program", .string c.downstreamProgram),
     ("conntrack_command", .string c.conntrackCommand), ("data_limits", limitsJson c.dataLimits)]

/-- Read a configuration. -/
def ofJson? (v : Json) : Option Config := do
  let fs ← v.fields? fieldNames
  return {
    offloadEnabled := ← Json.optional fs "offload_enabled" default.offloadEnabled Json.truth?
    pollIntervalMs := ← Json.optional fs "poll_interval_ms" default.pollIntervalMs Json.word64?
    tableDir := ← Json.optional fs "map_pin_dir" default.tableDir Json.text?
    tableNames := ← Json.optional fs "map_names" default.tableNames TableNames.ofJson?
    programObject :=
      ← Json.optional fs "program_object" default.programObject (Json.nullable Json.text?)
    upstreamProgram := ← Json.optional fs "upstream_program" default.upstreamProgram Json.text?
    downstreamProgram :=
      ← Json.optional fs "downstream_program" default.downstreamProgram Json.text?
    conntrackCommand := ← Json.optional fs "conntrack_command" default.conntrackCommand Json.text?
    dataLimits := ← Json.optional fs "data_limits" default.dataLimits limits? }

/-- Read a configuration from a text. -/
def parse? (s : String) : Option Config :=
  (Json.read? s).bind ofJson?

/-- The text of a configuration. -/
def render (c : Config) : String :=
  c.toJson.pretty

/-- The path of a pinned table. -/
def tablePath (c : Config) (l : TableLabel) : String :=
  Text.joinPath c.tableDir (c.tableNames.name l)

end Config

end FastPath

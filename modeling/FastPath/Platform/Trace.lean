import FastPath.Platform.Basic

/-!
# Traces of calls

A call has a name, which tells what is called and how, and a text with its arguments. Records are
shown as hexadecimal bytes.
-/

namespace FastPath

open FastPath.Text

/-- The name of an access. -/
def Access.name : Access → String
  | get _ => "get"
  | insert .. => "insert"
  | update .. => "update"
  | delete _ => "delete"
  | forEach => "for_each"
  | clear => "clear"

/-- The records that an access is about: its key, then its value. -/
def Access.records : Access → List Bytes
  | get k | delete k => [k]
  | insert k v | update k v => [k, v]
  | forEach | clear => []

/-- The name of a call to the daemon. -/
def DaemonCall.name : DaemonCall → String
  | ruleAdd _ => "rule_add"
  | ruleRemove _ => "rule_remove"
  | getStats => "get_stats"
  | setQuota .. => "set_interface_quota"
  | getAndClear _ => "get_and_clear_stats"

/-- The arguments of a call to the daemon. -/
def DaemonCall.arguments : DaemonCall → List String
  | ruleAdd p | ruleRemove p => [p.text]
  | getStats => []
  | setQuota i q => [toString i.toNat, toString q.toInt]
  | getAndClear i => [toString i.toNat]

/-- The name of a request. -/
def Request.name : Request → String
  | addRule _ => "add_rule"
  | removeRule _ => "remove_rule"
  | startForwarding .. => "start"
  | stopForwarding .. => "stop"
  | readAll => "get_all"
  | setQuota .. => "set_quota"
  | readAndClear _ => "get_and_clear"
  | clearAll => "clear_all"

/-- The arguments of a request. -/
def Request.arguments : Request → List String
  | addRule r | removeRule r => [r.text]
  | startForwarding d u | stopForwarding d u => [toString d.toNat, toString u.toNat]
  | setQuota i q isFirst => [toString i.toNat, toString q.toInt, toString isFirst]
  | readAndClear i => [toString i.toNat]
  | readAll | clearAll => []

namespace Call

/-- The name of a call. -/
def name : Call → String
  | request r => "backend." ++ r.name
  | table t a => t.text ++ "." ++ a.name
  | daemon d => "daemon." ++ d.name
  | publish .. => "sink.stats"
  | alert => "sink.alert"
  | attach .. => "attacher.attach"
  | detach _ => "attacher.detach"
  | startMonitor => "conntrack.start"
  | stopMonitor => "conntrack.stop"

/-- The arguments of a call. -/
def arguments : Call → List String
  | request r => r.arguments
  | table _ a => a.records.map hexBytes
  | daemon d => d.arguments
  | attach iface d => [iface, d.text]
  | detach iface => [iface]
  | publish .. | alert | startMonitor | stopMonitor => []

/-- The text of a call: its name, and its arguments if they say anything. -/
def text (c : Call) : String :=
  let arguments := " ".intercalate c.arguments
  if arguments.isEmpty then c.name else c.name ++ " " ++ arguments

end Call

end FastPath

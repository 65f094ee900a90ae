import FastPath.Backend
import FastPath.CommandLine.Log
import FastPath.Text.Line

/-!
# Capabilities

An overview of what the configuration names and what of it is there.
-/

namespace FastPath.CommandLine

open FastPath.Text

/-- The line of a table. -/
def tableLine (c : Config) (opened : TableLabel → Bool) (t : TableLabel) : String :=
  let status := if opened t then "✅ available" else "❌ unavailable"
  s!"  {padded 12 t.text} {padded 40 (c.tableNames.name t)} {status}"

/-- The line of the backend. -/
def backendLine (opened : TableLabel → Bool) : String :=
  match Source.missing opened with
  | [] => s!"Backend: {Mode.mapBased.text}"
  | missing =>
    let names := ", ".intercalate (missing.map TableLabel.text)
    s!"Backend: disabled (missing {names})"

/-- The lines of the programs. -/
def programLines (c : Config) : List String :=
  match c.programObject with
  | some path =>
    [s!"Program object: {path}", s!"  upstream program:   {c.upstreamProgram}",
     s!"  downstream program: {c.downstreamProgram}"]
  | none => ["Program object: (not configured, attachment disabled)"]

/-- The overview, with the tables that could be opened. -/
def capabilities (c : Config) (opened : TableLabel → Bool) : String :=
  let lines :=
    ["tetheroffload v0.1.0 - Offload Capabilities", "", s!"Kernel maps ({c.tableDir}):"] ++
    TableLabel.all.map (tableLine c opened) ++ ["", backendLine opened, ""] ++ programLines c ++
    ["eBPF support: not compiled in (build with --features offload-ebpf)"]
  unlines lines

end FastPath.CommandLine

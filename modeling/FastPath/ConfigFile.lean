import FastPath.Disk
import FastPath.Notice
import FastPath.Text.Line

/-!
# The configuration file

A configuration is read from a file and written to one. A file that is not there stands for the
default configuration. What is written reads back as the same configuration.
-/

namespace FastPath

open FastPath.Text

/-- Why a configuration could not be read or written. -/
inductive ConfigError
  | noHome
  | unreadable (path : String)
  | malformed (path : String)
  | noDirectory (path : String)
  | unwritable (path : String)
deriving DecidableEq

/-- The wording of an error. -/
def ConfigError.message : ConfigError → String
  | noHome => "Could not determine config directory"
  | unreadable path => s!"Failed to read config file: {quoted path}"
  | malformed path => s!"Failed to parse config file: {quoted path}"
  | noDirectory path => s!"Failed to create config directory: {quoted path}"
  | unwritable path => s!"Failed to write config file: {quoted path}"

namespace Config

/-- The usual place of the configuration: below the directory that the environment names for
configurations, or else below the home directory. -/
def usualPath (env : String → Option String) : Except ConfigError String :=
  let below (dir : String) := joinPath (joinPath dir "tetheroffload") "offload.json"
  match (env "XDG_CONFIG_HOME").filter isAbsolute, (env "HOME").filter fun h => !h.isEmpty with
  | some dir, _ => .ok (below dir)
  | none, some home => .ok (below (joinPath home ".config"))
  | none, none => .error .noHome

variable {m : Type → Type} [Monad m]

/-- Read the configuration at a path, and say whether it was there. -/
def load (disk : Disk m) (path : String) : m (Except ConfigError (Config × Notice)) := do
  if !(← disk.present path) then return .ok (default, .configMissing path)
  let some text := (← disk.read path).bind decodeLine | return .error (.unreadable path)
  match parse? text with
  | some c => return .ok (c, .configLoaded path)
  | none => return .error (.malformed path)

/-- Write the configuration to a path, in a directory that is made if need be. -/
def save (disk : Disk m) (path : String) (c : Config) : m (Except ConfigError Notice) := do
  if let some dir := parentPath? path then
    if !(← disk.makeDir dir) then return .error (.noDirectory dir)
  if ← disk.write path c.render then return .ok (.configSaved path)
  else return .error (.unwritable path)

end Config

end FastPath

import FastPath.Notice
import FastPath.Text.Line

/-!
# The stream of tracked connections

A command reports tracked connections, one on a line, for as long as it runs. Every line is noted. A
line that is not UTF-8 closes the stream.
-/

namespace FastPath

open FastPath.Text

namespace ConnectionStream

/-- The arguments of the command: report events of new, changed and closed version 4 connections. -/
def arguments : List String := ["-E", "-f", "ipv4", "-e", "NEW,UPDATE,DESTROY"]

/-- What is noted of what the command writes. -/
def notices (bytes : List UInt8) : List Notice :=
  let (texts, broken) := lines bytes
  texts.map .connection ++ if broken then [.connectionsClosed] else []

end ConnectionStream

/-- The command, and whether it has been started and not stopped since. -/
structure ConnectionCommand where
  command : String
  started : Bool
deriving DecidableEq

/-- Why the command was not started. -/
inductive ConnectionError
  | alreadyStarted
  | notSpawned (command : String)
deriving DecidableEq

/-- The wording of an error. -/
def ConnectionError.message : ConnectionError → String
  | alreadyStarted => "conntrack monitor already running"
  | notSpawned command => s!"Failed to spawn {command}"

namespace ConnectionCommand

/-- Start the command, where `runs` says whether the system can run it. -/
def start (runs : String → Bool) (c : ConnectionCommand) :
    Except ConnectionError Unit × ConnectionCommand :=
  if c.started then (.error .alreadyStarted, c)
  else if runs c.command then (.ok (), { c with started := true })
  else (.error (.notSpawned c.command), c)

/-- Stop the command. A command that ended by itself has to be stopped too. -/
def stop (c : ConnectionCommand) : ConnectionCommand :=
  { c with started := false }

end ConnectionCommand

end FastPath

import FastPath.CommandLine.Capabilities
import FastPath.CommandLine.Options
import FastPath.ConfigFile
import FastPath.Feed
import FastPath.Support

/-!
# Runs of the program

A run reads its options and its configuration. It then writes the configuration, prints an overview,
or serves the events that it is given until they end. What it has to say while it serves stands in
the journal, from which the text for the terminal is made.
-/

namespace FastPath.CommandLine

/-- What a run has come to before it reads an event. -/
inductive Launch
  /-- The run is over, with an exit code, its output and what it shows on the terminal. -/
  | ended (code : UInt8) (output shown : String)
  /-- The run serves events. -/
  | serving (log : Log) (s : Service)

/-- How the program is used. -/
def usage : String :=
  "Usage: tetheroffload [--config PATH] [--list-capabilities] [--save-config] [--no-poll] [-v]\n"

/-- The version of the program. -/
def version : String := "tetheroffload 0.1.0\n"

/-- Start polling if the run is to poll, and say so. -/
def beginPolling (o : Options) (s : Service) : Service :=
  if o.has .noPoll then s
  else
    match s.call (.event .startPolling) with
    | (.ok (.polling (some ms)), s) => s.note (.pollingFromStart ms)
    | (_, s) => s

/-- Get ready to serve events. -/
def serve (o : Options) (c : Config) (said : List Entry) : Service :=
  let (opened, tables) := Support.openTables
  let (attacher, programs) := Support.openPrograms c
  let platform := (said ++ [Entry.notice tables, .notice programs]).foldl Platform.push .empty
  let controller := Controller.start c (.tables opened) attacher platform
  let s := Service.start controller
  beginPolling o (s.note (controller.backend.elim .offloadDisabled fun b => .offloadEnabled b.mode))

/-- Stop serving events, for the reason for which they ended. -/
def finish (ended : Except FeedFailure Unit) (s : Service) : Service :=
  let s := s.note (match ended with
    | .ok () => .feedClosed
    | .error f => .feedFailed f)
  (s.call .shutDown).2

variable {m : Type → Type} [Monad m]

/-- Do what the options ask for. -/
def begin (disk : Disk m) (env : String → Option String) (o : Options) : m Launch := do
  let (filter, complaints) := LogFilter.ofRun (o.has .verbose) (env "RUST_LOG")
  let log : Log := ⟨filter, 0⟩
  let complained := complaints.map fun text => Entry.shown s!"{text}\n"
  let ended (code : UInt8) (output : String) (said : List Entry) : Launch :=
    .ended code output (log.presentAll (complained ++ said))
  let failed (e : ConfigError) (said : List Entry) : Launch :=
    ended 1 "" (said ++ [.shown s!"Error: {e.message}\n"])
  match o.config.elim (Config.usualPath env) .ok with
  | .error e => return failed e []
  | .ok path =>
    match ← Config.load disk path with
    | .error e => return failed e []
    | .ok (c, found) =>
      if o.has .saveConfig then
        match ← c.save disk path with
        | .error e => return failed e [.notice found]
        | .ok saved => return ended 0 "" [.notice found, .notice saved]
      else if o.has .listCapabilities then
        let (opened, tables) := Support.openTables
        return ended 0 (capabilities c opened) [.notice found, .notice tables]
      else return .serving log (serve o c (complained ++ [.notice found]))

/-- Begin a run with the words of its command line. -/
def launch (disk : Disk m) (env : String → Option String) (words : List String) : m Launch :=
  match read words with
  | .error e => return .ended 2 "" s!"error: {e.message}\n{usage}"
  | .ok .version => return .ended 0 version ""
  | .ok .help => return .ended 0 usage ""
  | .ok (.run o) => begin disk env o

end FastPath.CommandLine

import FastPath.CommandLine.Launch
import FastPath.Publication
import Std.Time

/-!
# The program

The outer layer: files, standard streams, the clock and the exit code.
-/

namespace FastPath.CommandLine

/-- The answer of an action that may fail. -/
def succeeds (action : IO Unit) : IO (Except String Unit) := do
  try
    action
    return .ok ()
  catch e => return .error (toString e)

/-- Something is at a path: it can be opened, or the reason for which it cannot is another one. -/
def isPresent (path : String) : IO Bool := do
  try
    let _ ← IO.FS.Handle.mk path .read
    return true
  catch
    | .noFileOrDirectory .. | .inappropriateType .. => return false
    | _ => return !path.isEmpty

/-- The files of the system. -/
def systemDisk : Disk IO where
  present := isPresent
  read path := do
    try return some (← IO.FS.readBinFile path).toList
    catch _ => return none
  makeDir path := do
    if path.isEmpty then return true
    return (← succeeds (IO.FS.createDirAll path)).isOk
  write path text := do
    return (← succeeds (IO.FS.writeFile path text)).isOk

/-- The stream to which notifications are published. -/
def outlet (out : IO.FS.Stream) : Publication.Outlet IO where
  write line := succeeds (out.putStr line)
  flush := succeeds out.flush

/-- Show what an entry of the journal puts on the terminal. -/
def showEntry (log : Log) (e : Entry) : IO Log := do
  let (text, log) := log.present e
  (← IO.getStderr).putStr text
  return log

/-- Publish what an entry of the journal publishes, and show what it shows. -/
def present (log : Log) (e : Entry) : IO Log := do
  let mut log := log
  if let .call c _ := e then
    if let some p := Publication.ofCall? c then
      let timestamp := (← Std.Time.DateTime.now).toISO8601String
      if let some n ← p.send (outlet (← IO.getStdout)) timestamp then
        log ← showEntry log (.notice n)
  showEntry log e

/-- Present the journal, and begin a new one. -/
def presentAll (log : Log) (s : Service) : IO (Log × Service) := do
  let (entries, s) := s.takeJournal
  return (← entries.foldlM present log, s)

/-- Serve the lines of the standard input. `pending` is the part of a line read so far, the last
byte first, and `since` is the time up to which the service has advanced. -/
partial def serveInput (log : Log) (number since : Nat) (pending : List UInt8) (s : Service) :
    IO (Except FeedFailure Unit × Log × Service) := do
  let (log, s) ← presentAll log s
  let input ← IO.getStdin
  let chunk ← input.read 1
  let now ← IO.monoMsNow
  let s := s.advance (now - since)
  match chunk.toList with
  | [] =>
    if pending.isEmpty then return (.ok (), log, s)
    else
      let (result, s) := Feed.serveBytes number pending.reverse s
      return (result, log, s)
  | 10 :: _ =>
    match Feed.serveBytes number (Text.dropReturn pending.reverse) s with
    | (.ok (), s) => serveInput log (number + 1) now [] s
    | (failed, s) => return (failed, log, s)
  | bytes => serveInput log number now (bytes.reverse ++ pending) s

/-- The variables of the environment that matter. -/
def environment : IO (String → Option String) := do
  let config ← IO.getEnv "XDG_CONFIG_HOME"
  let home ← IO.getEnv "HOME"
  let log ← IO.getEnv "RUST_LOG"
  return fun
    | "XDG_CONFIG_HOME" => config
    | "HOME" => home
    | "RUST_LOG" => log
    | _ => none

/-- Run the program with the words of its command line, and give its exit code. -/
def runProgram (words : List String) : IO UInt32 := do
  match ← launch systemDisk (← environment) words with
  | .ended code output shown =>
    (← IO.getStdout).putStr output
    (← IO.getStderr).putStr shown
    return code.toUInt32
  | .serving log s =>
    let (ended, log, s) ← serveInput log 1 (← IO.monoMsNow) [] s
    let _ ← presentAll log (finish ended s)
    return 0

end FastPath.CommandLine

/-- Run the program. -/
def main (words : List String) : IO UInt32 :=
  FastPath.CommandLine.runProgram words

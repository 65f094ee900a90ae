import FastPath.Service
import FastPath.Text.Blank
import FastPath.Text.Line

/-!
# The event feed

A feed is a text with one event on a line. White space around a line does not count, and blank lines
and those that start with `#` are skipped. A line that is no event, or whose request is rejected, is
noted and changes nothing. The feed ends early when the worker is gone or a line is not UTF-8; the
lines before that have been served.
-/

namespace FastPath

namespace Feed

open FastPath.Text

/-- What is noted about the answer to an event. -/
def remark : Event → Reply → Option Notice
  | .addRule d r, .changed false => some (.ruleNotTaken r d)
  | .startPolling, .polling (some ms) => some (.pollingStarted ms)
  | .startPolling, .polling none => some .notPolling
  | _, _ => none

/-- Take note of an answer, and show it if it is a text. -/
def report (e : Event) (r : Reply) (s : Service) : Service :=
  let s := (remark e r).elim s s.note
  match r with
  | .text t => s.display t
  | _ => s

/-- Serve an event on a line. -/
def serve (number : Nat) (e : Event) (s : Service) : Except FeedFailure Unit × Service :=
  match (s.note (.event e)).call (.event e) with
  | (.ok reply, s) => (.ok (), report e reply s)
  | (.error .stopped, s) => (.error .interrupted, s)
  | (.error (.invalidQuota q), s) => (.ok (), s.note (.eventRejected number (.invalidQuota q)))

/-- Serve the line with a number. -/
def serveLine (number : Nat) (line : String) (s : Service) : Except FeedFailure Unit × Service :=
  match trim line.toList with
  | [] | '#' :: _ => (.ok (), s)
  | text =>
    match Event.parse? (String.ofList text) with
    | some e => serve number e s
    | none => (.ok (), s.note (.eventSkipped number))

/-- Serve the line with a number, as bytes. -/
def serveBytes (number : Nat) (line : List UInt8) (s : Service) :
    Except FeedFailure Unit × Service :=
  match decodeLine line with
  | some text => serveLine number text s
  | none => (.error .unreadable, s)

/-- Serve lines, the first of which has the given number. -/
def serveLines : Nat → List (List UInt8) → Service → Except FeedFailure Unit × Service
  | _, [], s => (.ok (), s)
  | number, line :: rest, s =>
    match serveBytes number line s with
    | (.ok (), s) => serveLines (number + 1) rest s
    | failed => failed

/-- Serve a whole feed. -/
def serveAll (bytes : List UInt8) (s : Service) : Except FeedFailure Unit × Service :=
  serveLines 1 (rawLines bytes) s

end Feed

end FastPath

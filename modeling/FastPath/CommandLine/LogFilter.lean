import FastPath.CommandLine.Topic
import FastPath.Pattern.Meaning
import FastPath.Text.Blank
import FastPath.Text.Split

/-!
# Log filter

A filter says which notices are shown. Its text lists directives between commas, and a pattern that
must occur in a notice may follow after a slash. A directive gives the least severe level for the
topics whose names start with a text, or for all topics; the directive with the longest such text
decides. Without directives only errors are shown. A part that is no directive, or no pattern, is
complained about and ignored.
-/

namespace FastPath.CommandLine

open FastPath.Text

/-- The least severe level that is shown, or `none` when nothing is. -/
abbrev Threshold := Option Level

namespace Threshold

/-- The threshold with a name, whatever the case of its letters. -/
def ofName? (name : List Char) : Option Threshold :=
  match (String.ofList name).toLower with
  | "off" => some none
  | "error" => some (some .error)
  | "warn" => some (some .warn)
  | "info" => some (some .info)
  | "debug" => some (some .debug)
  | "trace" => some (some .trace)
  | _ => none

/-- A notice is severe enough. -/
def lets (least : Threshold) (n : Notice) : Bool :=
  least.any fun least => n.level.rank ≤ least.rank

end Threshold

/-- A directive: the threshold of the topics whose names start with a text, or of all topics. -/
structure Directive where
  start : Option (List Char)
  threshold : Threshold

namespace Directive

/-- Read a directive: a threshold, the start of a name, or both with an equals sign between them.
The start of a name alone shows everything. A failure says which text is wrong. -/
def read (part : List Char) : Except (List Char) Directive :=
  match splitOn '=' part with
  | [start] =>
    match Threshold.ofName? start with
    | some threshold => .ok ⟨none, threshold⟩
    | none => .ok ⟨some start, some .trace⟩
  | [start, level] =>
    match trim level with
    | [] => .ok ⟨some start, some .trace⟩
    | level =>
      match Threshold.ofName? level with
      | some threshold => .ok ⟨some start, threshold⟩
      | none => .error level
  | _ => .error part

/-- The directive is about a topic. -/
def covers (d : Directive) (topic : String) : Bool :=
  d.start.all fun start => start.isPrefixOf topic.toList

/-- How narrow a directive is: the more bytes its text has, the narrower. -/
def weight (d : Directive) : Nat :=
  d.start.elim 0 fun start => (String.ofList start).utf8ByteSize

/-- Put a directive in the place of the one with the same text, or behind all others. -/
def insertInto (ds : List Directive) (d : Directive) : List Directive :=
  if ds.any fun old => old.start = d.start then
    ds.map fun old => if old.start = d.start then d else old
  else ds ++ [d]

end Directive

/-- Which notices are shown. -/
structure LogFilter where
  directives : List Directive
  /-- What must occur in a notice. -/
  pattern : Option Pattern

namespace LogFilter

/-- Nothing is shown. -/
def silent : LogFilter := ⟨[⟨none, none⟩], none⟩

/-- The complaint about a text that is no directive. -/
def complaint (part : List Char) : String :=
  s!"warning: invalid logging spec '{String.ofList part}', ignoring it"

/-- Add the directives between commas, and complain about the parts that are none. -/
def addDirectives (f : LogFilter) (text : List Char) : LogFilter × List String :=
  let parts := ((splitOn ',' text).map trim).filter fun part => !part.isEmpty
  let results := parts.map Directive.read
  let directives := (results.filterMap Except.toOption).foldl Directive.insertInto f.directives
  let wrong := results.filterMap fun
    | .error part => some part
    | .ok _ => none
  ({ f with directives }, wrong.map complaint)

/-- Set the pattern by its text, and complain if it cannot be used. Then there is none. -/
def setPattern (f : LogFilter) (text : List Char) : LogFilter × List String :=
  match Pattern.read text with
  | .ok p => ({ f with pattern := some p }, [])
  | .error problem => (f, [s!"warning: invalid regex filter - {problem.message text}"])

/-- Extend a filter by a text, and complain about what is wrong with it. -/
def extend (f : LogFilter) (text : String) : LogFilter × List String :=
  match splitOn '/' text.toList with
  | [directives] => f.addDirectives directives
  | [directives, pattern] =>
    let (f, wrong) := f.addDirectives directives
    let (f, unusable) := f.setPattern pattern
    (f, wrong ++ unusable)
  | _ => (f, [complaint text.toList ++ " (too many '/'s)"])

/-- The filter with at least one directive. -/
def complete (f : LogFilter) : LogFilter :=
  if f.directives.isEmpty then { f with directives := [⟨none, some .error⟩] } else f

/-- The filter of a run, from the command line and the environment, and complaints about it. -/
def ofRun (verbose : Bool) (value : Option String) : LogFilter × List String :=
  let start : LogFilter := ⟨if verbose then [⟨none, some .debug⟩] else [], none⟩
  match value with
  | none => (if verbose then start else silent, [])
  | some text =>
    let (f, complaints) := start.extend text
    (f.complete, complaints)

/-- The threshold of a topic. -/
def threshold (f : LogFilter) (topic : String) : Threshold :=
  let narrower (best d : Directive) := if best.weight ≤ d.weight then d else best
  match f.directives.filter fun d => d.covers topic with
  | [] => none
  | d :: ds => (ds.foldl narrower d).threshold

/-- The filter lets a notice through. -/
def lets (f : LogFilter) (n : Notice) : Bool :=
  (f.threshold n.topic).lets n && f.pattern.all (·.occursIn n.text.toList)

end LogFilter

end FastPath.CommandLine

import FastPath.CommandLine.LogFilter
import FastPath.Platform.Basic

/-!
# The log on the terminal

A notice is shown on a line with its level, its topic and its text. Topics are padded to the width
of the widest one shown so far. Texts that are shown to whoever watches the program stand between
them as they are.
-/

namespace FastPath.CommandLine

/-- A text followed by blanks up to a width. -/
def padded (width : Nat) (s : String) : String :=
  String.ofList (s.toList.rightpad width ' ')

/-- The log of a run. -/
structure Log where
  filter : LogFilter
  /-- The width of the widest topic shown so far. -/
  width : Nat

namespace Log

/-- The line of a notice, given the width of topics. -/
def line (width : Nat) (n : Notice) : String :=
  s!" {padded 5 n.level.text.toUpper} {padded width n.topic} > {n.text}\n"

/-- The text that an entry of the journal puts on the terminal, and the log after it. -/
def present (l : Log) : Entry → String × Log
  | .notice n =>
    if l.filter.lets n then
      let width := max l.width n.topic.length
      (line width n, { l with width })
    else ("", l)
  | .shown text => (text, l)
  | .call .. => ("", l)

/-- The text that several entries put on the terminal. -/
def presentAll : Log → List Entry → String
  | _, [] => ""
  | l, e :: es =>
    let (text, l) := l.present e
    text ++ presentAll l es

end Log

end FastPath.CommandLine

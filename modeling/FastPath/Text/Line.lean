import FastPath.Text.Split

/-!
# Lines of a byte stream

A line ends at a line feed, or at the end of the stream when bytes are left over. One carriage
return before the line feed belongs to the line end. A line that is not UTF-8 ends the reading:
the lines before it have been delivered, and nothing after it is.
-/

namespace FastPath.Text

/-- A complete line without the carriage return at its end, when it has one. -/
def dropReturn (line : List UInt8) : List UInt8 :=
  if line.getLast? = some 13 then line.dropLast else line

/-- The lines of a stream as bytes, without their ends. A carriage return at the very end of the
stream has no line feed after it and stays. -/
def rawLines (bytes : List UInt8) : List (List UInt8) :=
  let parts := splitOn 10 bytes
  let complete := parts.dropLast.map dropReturn
  match parts.getLast? with
  | none | some [] => complete
  | some rest => complete ++ [rest]

/-- A line as text, or `none` when it is not UTF-8. -/
def decodeLine (line : List UInt8) : Option String :=
  String.fromUTF8? ⟨line.toArray⟩

/-- The lines up to the first that is not UTF-8, and whether there was such a line. -/
def lines (bytes : List UInt8) : List String × Bool :=
  let texts := (rawLines bytes).map decodeLine
  ((texts.takeWhile Option.isSome).filterMap id, texts.any Option.isNone)

/-- Lines as a text. Each of them gets a line feed at its end. -/
def unlines (texts : List String) : String :=
  String.join (texts.map (· ++ "\n"))

end FastPath.Text

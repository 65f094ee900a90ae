import FastPath.Text.Hex
import FastPath.Text.Visible

/-!
# Quoted text for diagnostics

A text is quoted so that every character of it can be seen: the usual escapes by a backslash, and
`\u` with the code point in braces for what is not visible. The single quote stands for itself. A
value with parts is shown by its name and its parts in braces.
-/

namespace FastPath.Text

/-- The form of one character between quotes. -/
def quotedChar (c : Char) : List Char :=
  if c = '\x00' then ['\\', '0']
  else if c = '\t' then ['\\', 't']
  else if c = '\r' then ['\\', 'r']
  else if c = '\n' then ['\\', 'n']
  else if c = '\\' ∨ c = '\x22' then ['\\', c]
  else if isVisible c then [c]
  else ['\\', 'u', '\x7b'] ++ hexDigits c.toNat ++ ['\x7d']

/-- A text between double quotes. -/
def quoted (s : String) : String :=
  "\"" ++ String.ofList (s.toList.flatMap quotedChar) ++ "\""

/-- Several texts, each quoted, in brackets. -/
def quotedList (ss : List String) : String :=
  "[" ++ ", ".intercalate (ss.map quoted) ++ "]"

/-- A value with named parts. -/
def described (name : String) (parts : List (String × String)) : String :=
  name ++ " \x7b " ++ ", ".intercalate (parts.map fun (n, v) => n ++ ": " ++ v) ++ " \x7d"

end FastPath.Text

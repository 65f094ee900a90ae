import FastPath.Text.Hex

/-!
# Text of a duration

A duration of at least one second is written in seconds with as many decimals as it needs, at most
three, and the unit `s` directly after them.
-/

namespace FastPath.Text

/-- The decimals of a part of a second given in milliseconds, without trailing zeros. -/
def decimals (ms : Nat) : List Char :=
  let digits := [ms / 100 % 10, ms / 10 % 10, ms % 10]
  (digits.reverse.dropWhile (· = 0)).reverse.map hexDigit

/-- The text of a duration given in milliseconds. -/
def duration (ms : Nat) : String :=
  match decimals (ms % 1000) with
  | [] => toString (ms / 1000) ++ "s"
  | ds => toString (ms / 1000) ++ "." ++ String.ofList ds ++ "s"

end FastPath.Text

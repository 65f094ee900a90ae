import FastPath.Json.Basic

/-!
# JSON numbers

A whole number keeps its value, and of any other number nothing is kept. Neither may be too large
for a double. To find out, the digits are gathered into a word of 64 bits as long as they fit, a
power of ten stands for the others, and the word and the power are each rounded to a double. The
number is too large when their product rounds to no finite double.
-/

namespace FastPath.Json

/-- The value of a decimal digit. -/
def decimalValue (c : Char) : Nat :=
  c.toNat - '0'.toNat

/-- The number with the given decimal digits, most significant first. -/
def ofDecimal (digits : List Char) : Nat :=
  digits.foldl (fun n c => 10 * n + decimalValue c) 0

/-- Put digits behind a number as long as it fits into a word. The digits that do not are left. -/
def gather (n : Nat) : List Char → Nat × List Char
  | [] => (n, [])
  | d :: ds =>
    let longer := 10 * n + decimalValue d
    if longer < UInt64.size then gather longer ds else (n, d :: ds)

/-- The nearest number whose significand has 53 bits, and of two such numbers the even one. -/
def nearestDouble (n : Nat) : Nat :=
  let unit := 1 <<< (n.log2 - 52)
  let steps := n / unit
  let left := n % unit
  (if unit < 2 * left ∨ (2 * left = unit ∧ steps % 2 = 1) then steps + 1 else steps) * unit

/-- The first number that rounds to no finite double: half a step above the largest one. -/
def doubleBound : Nat := (1 <<< 1024) - (1 <<< 970)

/-- The largest power of ten that is a finite double. -/
def largestPower : Nat := 308

/-- A word times a power of ten is too large for a double. -/
def beyondDoubles (n : Nat) (exponent : Int) : Bool :=
  n ≠ 0 && 0 ≤ exponent && (largestPower < exponent ||
    doubleBound ≤ nearestDouble n * nearestDouble (Nat.pow 10 exponent.toNat))

/-- The digits after the point and the rest, or `none` when the point has no digit after it. -/
def scanFraction : List Char → Option (List Char × List Char)
  | '.' :: r =>
    match r.span Char.isDigit with
    | ([], _) => none
    | (ds, r) => some (ds, r)
  | r => some ([], r)

/-- The exponent, if any, and the rest, or `none` when the mark has no digits after it. -/
def scanExponent : List Char → Option (Option Int × List Char)
  | c :: r =>
    if c = 'e' ∨ c = 'E' then
      let (negative, r) := match r with
        | '-' :: r => (true, r)
        | '+' :: r => (false, r)
        | r => (false, r)
      match r.span Char.isDigit with
      | ([], _) => none
      | (ds, r) => some (some (if negative then -(ofDecimal ds : Int) else ofDecimal ds), r)
    else some (none, c :: r)
  | [] => some (none, [])

/-- The digits before the point and the rest: a zero alone, or digits that do not start with one. -/
def scanUnits : List Char → Option (List Char × List Char)
  | '0' :: r => some (['0'], r)
  | r =>
    match r.span Char.isDigit with
    | ([], _) => none
    | (ds, r) => some (ds, r)

/-- The value of a number without its sign. Zero with a minus sign is no whole number. -/
def numberValue (negative : Bool) (units decimals : List Char) (exponent : Option Int) : Json :=
  let (front, idle) := gather 0 units
  let (word, unused) := gather front decimals
  let used := decimals.length - unused.length
  if beyondDoubles word (exponent.getD 0 + idle.length - used) then .void
  else if decimals.isEmpty ∧ exponent.isNone then
    let n := ofDecimal units
    if negative then (if n = 0 then .fraction else .whole (-n)) else .whole n
  else .fraction

/-- Read a number. -/
def scanNumber (cs : List Char) : Option (Json × List Char) := do
  let (negative, r) := match cs with
    | '-' :: r => (true, r)
    | r => (false, r)
  let (units, r) ← scanUnits r
  let (decimals, r) ← scanFraction r
  let (exponent, r) ← scanExponent r
  return (numberValue negative units decimals exponent, r)

end FastPath.Json

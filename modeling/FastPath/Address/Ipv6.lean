import FastPath.Text.Hex

/-!
# Internet addresses

An address is eight groups of sixteen bits. Addresses are ordered as the numbers they are, which is
the order of their groups and of their bytes alike.

The text of an address follows RFC 5952: groups without leading zeros, the longest run of two or
more zero groups written as `::` (the first of several), and the last two groups in dotted form
exactly when the address embeds a version 4 address. Reading accepts every spelling of RFC 4291: up
to four digits in either case, one `::` for one or more groups, and a dotted tail.
-/

namespace FastPath

open FastPath.Text Std

/-- A version 6 address. -/
structure Ipv6 where
  groups : Vector UInt16 8
deriving DecidableEq

namespace Ipv6

instance : Ord Ipv6 := ⟨compareOn groups⟩

instance : TransOrd Ipv6 := inferInstanceAs (TransCmp (compareOn groups))

instance : LawfulEqOrd Ipv6 where
  eq_of_compare {a b} h := by
    have h : compare a.groups b.groups = .eq := h
    cases a; cases b
    simp_all

/-- The bytes in network order. -/
def bytes (a : Ipv6) : List UInt8 :=
  a.groups.toList.flatMap fun (g : UInt16) => [(g >>> 8).toUInt8, g.toUInt8]

/-! ## Writing -/

/-- The characters of groups joined by colons. -/
def groupChars (gs : List UInt16) : List Char :=
  [':'].intercalate (gs.map fun g => hexDigits g.toNat)

/-- The four decimal numbers of two groups. -/
def dottedChars (a b : UInt16) : List Char :=
  ['.'].intercalate <|
    [a.toNat / 256, a.toNat % 256, b.toNat / 256, b.toNat % 256].map (Nat.toDigits 10)

/-- How many zero groups stand in a row from position `i` on. -/
def zeroRun (gs : List UInt16) (i : Nat) : Nat :=
  ((gs.drop i).takeWhile (· = 0)).length

/-- Where the first of the longest runs of zero groups starts. -/
def longestRun (gs : List UInt16) : Nat :=
  (List.range gs.length).foldl (fun best i => if zeroRun gs best < zeroRun gs i then i else best) 0

/-- The characters of an address. -/
def chars (a : Ipv6) : List Char :=
  match a.groups.toList with
  | [0, 0, 0, 0, 0, 0xffff, x, y] => "::ffff:".toList ++ dottedChars x y
  | gs =>
    let start := longestRun gs
    let length := zeroRun gs start
    if 1 < length then
      groupChars (gs.take start) ++ [':', ':'] ++ groupChars (gs.drop (start + length))
    else groupChars gs

/-- The text of an address. -/
def text (a : Ipv6) : String :=
  String.ofList a.chars

/-! ## Reading -/

/-- Read one group: one to four hexadecimal digits and no further digit. -/
def readGroup (cs : List Char) : Option (UInt16 × List Char) :=
  let (digits, rest) := cs.span fun c => (hexValue? c).isSome
  if 1 ≤ digits.length ∧ digits.length ≤ 4 then
    some (UInt16.ofNat (ofHexDigits (digits.filterMap hexValue?)), rest)
  else none

/-- Read one number of the dotted form: at most three digits without a leading zero, below 256. -/
def readByte (cs : List Char) : Option (Nat × List Char) :=
  let (digits, rest) := cs.span fun c => (decimalValue? c).isSome
  let n := digits.foldl (fun n c => 10 * n + (decimalValue? c).getD 0) 0
  if 1 ≤ digits.length ∧ digits.length ≤ 3 ∧ (digits.head? = some '0' → digits.length = 1) ∧ n < 256
  then some (n, rest) else none

/-- Step over one given character. -/
def skip (c : Char) : List Char → Option (List Char)
  | d :: r => if d = c then some r else none
  | [] => none

/-- Read the dotted form as two groups. -/
def readDotted (cs : List Char) : Option (UInt16 × UInt16 × List Char) := do
  let (a, r) ← readByte cs
  let (b, r) ← readByte (← skip '.' r)
  let (c, r) ← readByte (← skip '.' r)
  let (d, r) ← readByte (← skip '.' r)
  return (UInt16.ofNat (a * 256 + b), UInt16.ofNat (c * 256 + d), r)

/-- Read at most `room` groups joined by colons, and whether they end in the dotted form, which
takes the room of two. The colon before the first group is not expected. -/
def readGroups : (room : Nat) → (first : Bool) → List Char → List UInt16 × Bool × List Char
  | 0, _, cs => ([], false, cs)
  | room + 1, first, cs =>
    let start := if first then some cs else skip ':' cs
    match if room = 0 then none else start.bind readDotted with
    | some (a, b, r) => ([a, b], true, r)
    | none =>
      match start.bind readGroup with
      | some (g, r) =>
        let (gs, dotted, r) := readGroups room false r
        (g :: gs, dotted, r)
      | none => ([], false, cs)

/-- The address with the given groups. -/
def ofList? (gs : List UInt16) : Option Ipv6 :=
  if h : gs.length = 8 then some ⟨⟨gs.toArray, by simpa using h⟩⟩ else none

/-- Read an address that takes up the whole of a text. -/
def ofChars? (cs : List Char) : Option Ipv6 :=
  let (front, dotted, r) := readGroups 8 true cs
  if front.length = 8 then
    if r.isEmpty then ofList? front else none
  else if dotted then none
  else match r with
    | ':' :: ':' :: r =>
      let (back, _, r) := readGroups (7 - front.length) true r
      if r.isEmpty then
        ofList? (front ++ List.replicate (8 - front.length - back.length) 0 ++ back)
      else none
    | _ => none

/-- Read an address. -/
def parse? (s : String) : Option Ipv6 :=
  ofChars? s.toList

end Ipv6

end FastPath

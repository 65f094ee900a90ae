import FastPath.Text.Hex
import FastPath.Text.Split

/-!
# Hardware addresses

A hardware address is six octets. It is written as six pairs of lower-case digits joined by colons,
and read from six parts, each a hexadecimal number below 256 with any number of leading zeros and an
optional plus sign.
-/

namespace FastPath

open FastPath.Text

/-- A hardware address. -/
structure Mac where
  octets : Vector UInt8 6
deriving DecidableEq

/-- Why a text is not a hardware address. -/
inductive MacError
  /-- There are fewer than six parts. -/
  | tooShort (text : String)
  /-- This part is not an octet. -/
  | badOctet (part text : String)
  /-- There are more than six parts. -/
  | tooLong (text : String)

/-- The wording of an error. -/
def MacError.message : MacError → String
  | tooShort text => s!"MAC address too short: {text}"
  | badOctet part text => s!"Invalid MAC address octet '{part}' in {text}"
  | tooLong text => s!"MAC address too long: {text}"

namespace Mac

/-- The address of six zeros. -/
def zero : Mac := ⟨.replicate 6 0⟩

/-- The characters of an address. -/
def chars (m : Mac) : List Char :=
  [':'].intercalate (m.octets.toList.map hexByte)

/-- The text of an address. -/
def text (m : Mac) : String :=
  String.ofList m.chars

/-- The digits of an octet, without the plus sign that may stand before them. -/
def unsigned : List Char → List Char
  | '+' :: ds => ds
  | ds => ds

/-- The octet that a part of an address names. -/
def octet? (part : List Char) : Option UInt8 :=
  match (unsigned part).mapM hexValue? with
  | none | some [] => none
  | some ds => if ofHexDigits ds < 256 then some (UInt8.ofNat (ofHexDigits ds)) else none

/-- Read an address. A part that is no octet is reported before a wrong number of parts. -/
def parse (s : String) : Except MacError Mac :=
  let parts := splitOn ':' s.toList
  let front := parts.take 6
  match front.find? (fun p => (octet? p).isNone) with
  | some p => .error (.badOctet (String.ofList p) s)
  | none =>
    let octets := front.filterMap octet?
    if h : octets.length = 6 then
      if 6 < parts.length then .error (.tooLong s)
      else .ok ⟨⟨octets.toArray, by simpa using h⟩⟩
    else .error (.tooShort s)

end Mac

end FastPath

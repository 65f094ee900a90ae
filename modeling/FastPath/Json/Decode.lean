import FastPath.Json.Basic
import FastPath.Traffic

/-!
# Values read from JSON

A structure with declared fields is written as an object, in any order and with further fields that
are skipped, or as an array of its fields in declared order. A declared field stands at most once.
Words are whole numbers in range.
-/

namespace FastPath.Json

/-- The declared fields of a structure that the value holds. -/
def fields? (names : List String) : Json → Option (List (String × Json))
  | array items => if items.length ≤ names.length then some (names.zip items) else none
  | object fs =>
    let known := fs.filter fun f => f.1 ∈ names
    if (known.map Prod.fst).Nodup then some known else none
  | _ => none

/-- The value of a field that must stand there. -/
def required (fs : List (String × Json)) (name : String) (decode : Json → Option α) : Option α :=
  (fs.lookup name).bind decode

/-- The value of a field that may be left out. -/
def optional (fs : List (String × Json)) (name : String) (otherwise : α)
    (decode : Json → Option α) : Option α :=
  match fs.lookup name with
  | some v => decode v
  | none => some otherwise

/-- A value that may be `null`. -/
def nullable (decode : Json → Option α) : Json → Option (Option α)
  | null => some none
  | v => (decode v).map some

/-- A text. -/
def text? : Json → Option String
  | string s => some s
  | _ => none

/-- A truth value. -/
def truth? : Json → Option Bool
  | bool b => some b
  | _ => none

/-- A word of 32 bits. -/
def word32? : Json → Option UInt32
  | whole n => if 0 ≤ n ∧ n < UInt32.size then some (UInt32.ofNat n.toNat) else none
  | _ => none

/-- A word of 64 bits. -/
def word64? : Json → Option UInt64
  | whole n => if 0 ≤ n ∧ n < UInt64.size then some (UInt64.ofNat n.toNat) else none
  | _ => none

/-- A signed word of 64 bits. -/
def signed64? : Json → Option Int64
  | whole n =>
    if Int64.minValue.toInt ≤ n ∧ n ≤ Int64.maxValue.toInt then some (Int64.ofInt n) else none
  | _ => none

/-- The value of a word of 32 bits. -/
def ofWord32 (n : UInt32) : Json := whole n.toNat

/-- The value of a word of 64 bits. -/
def ofWord64 (n : UInt64) : Json := whole n.toNat

/-- The value of a signed word. -/
def ofSigned64 (n : Int64) : Json := whole n.toInt

end FastPath.Json

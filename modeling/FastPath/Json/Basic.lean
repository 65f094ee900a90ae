/-!
# JSON values

A value as a strict reader sees it. Whole numbers keep their value. Every other number is only known
to be one, since no field of a configuration or an event holds a fraction. A text can be well formed
and yet denote nothing: a string whose surrogate escapes do not pair, or a number too large for a
double. Such a value is `void`, which a field that is skipped may hold and a field that is read may
not.
-/

namespace FastPath

/-- A JSON value. The fields of an object keep their order and may repeat a name. -/
inductive Json
  | null
  | bool (b : Bool)
  | whole (n : Int)
  | fraction
  | string (s : String)
  | array (items : List Json)
  | object (fields : List (String × Json))
  | void
deriving Inhabited

namespace Json

mutual

/-- No part of the value is void. -/
def isSound : Json → Bool
  | void => false
  | array items => areSound items
  | object fields => fieldsSound fields
  | _ => true

/-- No part of any of the values is void. -/
def areSound : List Json → Bool
  | [] => true
  | v :: vs => isSound v && areSound vs

/-- No part of any field's value is void. -/
def fieldsSound : List (String × Json) → Bool
  | [] => true
  | (_, v) :: fs => isSound v && fieldsSound fs

end

mutual

/-- How many arrays and objects stand around the innermost value. -/
def depth : Json → Nat
  | array items => depths items + 1
  | object fields => fieldDepths fields + 1
  | _ => 0

/-- The largest depth of the values. -/
def depths : List Json → Nat
  | [] => 0
  | v :: vs => max (depth v) (depths vs)

/-- The largest depth of the fields' values. -/
def fieldDepths : List (String × Json) → Nat
  | [] => 0
  | (_, v) :: fs => max (depth v) (fieldDepths fs)

end

end Json

end FastPath

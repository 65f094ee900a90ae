import FastPath.Json.Token

/-!
# Reading JSON

The reader takes one token at a time and keeps the arrays and objects that are still open on a
stack, so a text may nest as deeply as it likes. There is exactly one value in a text.
-/

namespace FastPath.Json

/-- An array or object that is still open, with what it holds so far in reverse. -/
inductive Open
  | array (items : List Json)
  | object (fields : List (Option String × Json)) (name : Option String)

/-- What the reader waits for. -/
inductive Awaiting
  /-- A value. -/
  | value
  /-- The first value of an array, or its end. -/
  | firstItem
  /-- The first name of an object, or its end. -/
  | firstName
  /-- The name of the next field. -/
  | name (fields : List (Option String × Json))
  /-- The colon after a name. -/
  | colon
  /-- A comma or the end of the innermost array or object, now that `v` is complete. -/
  | after (v : Json)

/-- The state of the reader between two tokens. -/
structure Reader where
  /-- The open arrays and objects around the current place, innermost first. -/
  stack : List Open
  awaiting : Awaiting

/-- The object with the given fields; one name that is no text makes it void. -/
def ofFields (fields : List (Option String × Json)) : Json :=
  match fields.mapM fun (name, v) => name.map (·, v) with
  | some fs => object fs
  | none => void

/-- The reader takes one token, or refuses it. -/
def Reader.step (r : Reader) (t : Token) : Option Reader :=
  match r.awaiting, t with
  | .value, .scalar v | .firstItem, .scalar v => some { r with awaiting := .after v }
  | .value, .string s | .firstItem, .string s =>
    some { r with awaiting := .after (s.elim void string) }
  | .value, .openArray => some ⟨.array [] :: r.stack, .firstItem⟩
  | .firstItem, .openArray => some ⟨.array [] :: r.stack, .firstItem⟩
  | .value, .openObject | .firstItem, .openObject => some { r with awaiting := .firstName }
  | .firstItem, .closeArray =>
    match r.stack with
    | .array [] :: s => some ⟨s, .after (array [])⟩
    | _ => none
  | .firstName, .closeObject => some { r with awaiting := .after (object []) }
  | .firstName, .string s => some ⟨.object [] s :: r.stack, .colon⟩
  | .name fields, .string s => some ⟨.object fields s :: r.stack, .colon⟩
  | .colon, .colon => some { r with awaiting := .value }
  | .after v, .comma =>
    match r.stack with
    | .array items :: s => some ⟨.array (v :: items) :: s, .value⟩
    | .object fields name :: s => some ⟨s, .name ((name, v) :: fields)⟩
    | [] => none
  | .after v, .closeArray =>
    match r.stack with
    | .array items :: s => some ⟨s, .after (array (v :: items).reverse)⟩
    | _ => none
  | .after v, .closeObject =>
    match r.stack with
    | .object fields name :: s => some ⟨s, .after (ofFields ((name, v) :: fields).reverse)⟩
    | _ => none
  | _, _ => none

/-- The value of a list of tokens. -/
def ofTokens? (ts : List Token) : Option Json :=
  match ts.foldlM Reader.step ⟨[], .value⟩ with
  | some ⟨[], .after v⟩ => some v
  | _ => none

/-- The value of a text, or `none` when the text is not JSON. -/
def read? (s : String) : Option Json :=
  (Token.scan s.toList).bind ofTokens?

end FastPath.Json

import FastPath.Json.Token

/-!
# Writing JSON

A value is written as its tokens, either directly after one another or laid out: every item and
field on a line of its own, two spaces deeper than what holds it, and a space after each colon. An
empty array or object stays together.
-/

namespace FastPath.Json

/-- What is written: a token, a new line at some depth, or a space. -/
inductive Mark
  | token (t : Token)
  | line (depth : Nat)
  | space

/-- The text of a mark. -/
def Mark.render : Mark → List Char
  | .token t => t.render
  | .line depth => '\n' :: List.replicate (2 * depth) ' '
  | .space => [' ']

mutual

/-- The marks of a value that stands at some depth. -/
def marks (depth : Nat) : Json → List Mark
  | string s => [.token (.string (some s))]
  | array [] => [.token .openArray, .token .closeArray]
  | array (v :: vs) =>
    .token .openArray :: .line (depth + 1) :: marks (depth + 1) v ++ itemMarks (depth + 1) vs ++
      [.line depth, .token .closeArray]
  | object [] => [.token .openObject, .token .closeObject]
  | object ((name, v) :: fs) =>
    .token .openObject :: .line (depth + 1) :: .token (.string (some name)) :: .token .colon ::
      .space :: marks (depth + 1) v ++ fieldMarks (depth + 1) fs ++
      [.line depth, .token .closeObject]
  | v => [.token (.scalar v)]

/-- The marks of the items after the first. -/
def itemMarks (depth : Nat) : List Json → List Mark
  | [] => []
  | v :: vs => .token .comma :: .line depth :: marks depth v ++ itemMarks depth vs

/-- The marks of the fields after the first. -/
def fieldMarks (depth : Nat) : List (String × Json) → List Mark
  | [] => []
  | (name, v) :: fs =>
    .token .comma :: .line depth :: .token (.string (some name)) :: .token .colon :: .space ::
      marks depth v ++ fieldMarks depth fs

end

/-- The token of a mark, when it is one. -/
def Mark.token? : Mark → Option Token
  | .token t => some t
  | _ => none

/-- The text of a value on one line, without blanks. -/
def compact (v : Json) : String :=
  String.ofList ((marks 0 v).filterMap Mark.token? |>.flatMap Token.render)

/-- The text of a value laid out on several lines. -/
def pretty (v : Json) : String :=
  String.ofList ((marks 0 v).flatMap Mark.render)

end FastPath.Json

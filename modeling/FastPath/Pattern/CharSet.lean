/-!
# Sets of characters

A set is made from ranges by the usual operations, and `contains` tells its members. Some sets of
ASCII characters have names.
-/

namespace FastPath

/-- A set of characters. -/
inductive CharSet
  | nothing
  | range (lo hi : Char)
  | either (a b : CharSet)
  | both (a b : CharSet)
  | others (a : CharSet)
  /-- The letters of ASCII come with their other case. -/
  | caseless (a : CharSet)
deriving DecidableEq

namespace CharSet

/-- The character is in the set. -/
def contains : CharSet → Char → Bool
  | nothing, _ => false
  | range lo hi, c => lo ≤ c && c ≤ hi
  | either a b, c => a.contains c || b.contains c
  | both a b, c => a.contains c && b.contains c
  | others a, c => !a.contains c
  | caseless a, c => a.contains c || a.contains c.toLower || a.contains c.toUpper

/-- The set of a single character. -/
def only (c : Char) : CharSet := range c c

/-- The members of the first set that are not in the second. -/
def without (a b : CharSet) : CharSet := both a (others b)

/-- The members of exactly one of the sets. -/
def differing (a b : CharSet) : CharSet := either (without a b) (without b a)

/-- The set of the characters in a list. -/
def ofList (cs : List Char) : CharSet :=
  cs.foldr (fun c s => either (only c) s) nothing

/-- All characters. -/
def anything : CharSet := others nothing

/-- The characters of ASCII. -/
def ascii : CharSet := range '\x00' '\x7f'

/-- The decimal digits. -/
def digit : CharSet := range '0' '9'

/-- The small letters. -/
def lower : CharSet := range 'a' 'z'

/-- The capital letters. -/
def upper : CharSet := range 'A' 'Z'

/-- The letters. -/
def letter : CharSet := either lower upper

/-- The letters and digits. -/
def alphanumeric : CharSet := either letter digit

/-- The characters of words. -/
def word : CharSet := either alphanumeric (only '_')

/-- The white space. -/
def space : CharSet := either (range '\t' '\r') (only ' ')

/-- The characters with a form of their own. -/
def graphic : CharSet := range '!' '~'

/-- The set of ASCII characters with a name. -/
def named? (name : String) : Option CharSet :=
  match name with
  | "alnum" => some alphanumeric
  | "alpha" => some letter
  | "ascii" => some ascii
  | "blank" => some (ofList ['\t', ' '])
  | "cntrl" => some (either (range '\x00' '\x1f') (only '\x7f'))
  | "digit" => some digit
  | "graph" => some graphic
  | "lower" => some lower
  | "print" => some (either graphic (only ' '))
  | "punct" => some (without graphic alphanumeric)
  | "space" => some space
  | "upper" => some upper
  | "word" => some word
  | "xdigit" => some (either digit (either (range 'a' 'f') (range 'A' 'F')))
  | _ => none

end CharSet

end FastPath

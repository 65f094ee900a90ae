import FastPath.Text.Split

/-!
# Paths

A path is a text whose components stand between slashes, and a slash at its front makes it absolute.
Empty components and the component `.` lead nowhere and do not count, except that a `.` at the front
says where a relative path starts.
-/

namespace FastPath.Text

/-- The path is absolute. -/
def isAbsolute (path : String) : Bool :=
  path.startsWith "/"

/-- A path taken from a directory. An absolute path stands for itself, and an empty directory adds
nothing. -/
def joinPath (dir path : String) : String :=
  if isAbsolute path then path
  else if dir.isEmpty ∨ dir.endsWith "/" then dir ++ path
  else dir ++ "/" ++ path

/-- The component leads somewhere. -/
def isStep (component : List Char) : Bool :=
  component ≠ [] && component ≠ ['.']

/-- Components without those at the end that do not count. -/
def dropIdle : List (List Char) → List (List Char)
  | [] => []
  | front :: rest =>
    let rest := (rest.reverse.dropWhile fun c => !isStep c).reverse
    if rest.isEmpty && front.isEmpty then [] else front :: rest

/-- The directory that a path lies in. A path without a component that counts lies in none. -/
def parentPath? (path : String) : Option String :=
  match dropIdle (splitOn '/' path.toList) with
  | [] => none
  | components =>
    match dropIdle components.dropLast with
    | [] => some (if isAbsolute path then "/" else "")
    | rest => some ("/".intercalate (rest.map String.ofList))

end FastPath.Text

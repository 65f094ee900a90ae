import FastPath.Text.Path

/-!
# Files

A `Disk` is access to files by their paths. `MemoryDisk` holds files without a system below it, for
rehearsals. A path is followed name by name from where the disk starts, or from the top if it is
absolute, and each name but the last must lead to a directory. The name `..` leads to the directory
around, so it undoes the name before it only where that name leads somewhere. Around the place where
the disk starts lie only directories.
-/

namespace FastPath

open FastPath.Text

/-- Access to files by their paths. -/
structure Disk (m : Type → Type) where
  /-- Something is at the path. -/
  present : String → m Bool
  /-- The bytes of a file, or `none` when they cannot be read. -/
  read : String → m (Option (List UInt8))
  /-- Make a directory and those around it, unless they are there already. -/
  makeDir : String → m Bool
  /-- Write a whole file. -/
  write : String → String → m Bool

/-- The names that lead from the start of a disk to a place on it. An absolute place begins with an
empty name, and one outside of the start with `..`. -/
abbrev Place := List String

/-- Files by their places. A directory is kept without a text. -/
structure MemoryDisk where
  nodes : List (Place × Option String)

namespace MemoryDisk

/-- The most bytes that a name may have. -/
def longestName : Nat := 255

/-- The most bytes that a path may have. -/
def longestPath : Nat := 4095

/-- The disk with the given files and directories below its start. -/
def ofFiles (files : List (String × Option String)) : MemoryDisk :=
  ⟨files.map fun (path, text) =>
    (((splitOn '/' path.toList).filter isStep).map String.ofList, text)⟩

/-- The text of the file at a place. -/
def file? (d : MemoryDisk) (place : Place) : Option String :=
  (d.nodes.lookup place).join

/-- A directory is at a place: it is the start, the top, around the start, or around a node. -/
def isDir (d : MemoryDisk) (place : Place) : Bool :=
  place = [""] || place.all (· = "..") || d.nodes.any fun (other, text) =>
    place.isPrefixOf other && (text.isNone || other ≠ place)

/-- The files below the start, with their paths. -/
def files (d : MemoryDisk) : List (String × String) :=
  d.nodes.filterMap fun (place, text) =>
    if place.head? = some "" ∨ place.head? = some ".." then none
    else text.map ("/".intercalate place, ·)

/-- The place around another. Nothing is around the top. -/
def around (place : Place) : Place :=
  if place = [""] then place
  else if place.all (· = "..") then ".." :: place
  else place.dropLast

/-- The place that a name leads to from a directory. -/
def follow (d : MemoryDisk) (place : Place) (name : List Char) : Option Place :=
  if !d.isDir place then none
  else if !isStep name then some place
  else if name = ['.', '.'] then some (around place)
  else if (String.ofList name).utf8ByteSize ≤ longestName then some (place ++ [String.ofList name])
  else none

/-- Where a path begins, and the names on it. -/
def route (path : String) : Place × List (List Char) :=
  (if isAbsolute path then [""] else [], splitOn '/' path.toList)

/-- The place that a path leads to. -/
def find (d : MemoryDisk) (path : String) : Option Place :=
  let (start, names) := route path
  if path.utf8ByteSize ≤ longestPath then names.foldlM d.follow start else none

/-- Something is at a path. -/
def present (d : MemoryDisk) (path : String) : Bool :=
  !path.isEmpty && (d.find path).any fun place => d.isDir place || (d.file? place).isSome

/-- The text of the file that a path leads to. -/
def read (d : MemoryDisk) (path : String) : Option String :=
  (d.find path).bind d.file?

/-- Make a directory in one that is there, unless it is there already. -/
def ensureDir (d : MemoryDisk) (place : Place) : Option MemoryDisk :=
  if d.isDir place then some d
  else if (d.file? place).isSome then none
  else some ⟨(place, none) :: d.nodes⟩

/-- Make a directory and those on the way to it. -/
def makeDir (d : MemoryDisk) (path : String) : Option MemoryDisk := do
  let (start, names) := route path
  if longestPath < path.utf8ByteSize then none
  let (d, place) ← names.foldlM (fun (d, place) name => do
    let d ← d.ensureDir place
    return (d, ← d.follow place name)) (d, start)
  d.ensureDir place

/-- Write a file into a directory that is there. -/
def write (d : MemoryDisk) (path text : String) : Option MemoryDisk := do
  let place ← d.find path
  if d.isDir place then none
  return ⟨(place, some text) :: d.nodes.filter fun n => n.1 ≠ place⟩

/-- Make a change, if it can be made. -/
def change (f : MemoryDisk → Option MemoryDisk) : StateM MemoryDisk Bool := do
  match f (← get) with
  | some d =>
    set d
    return true
  | none => return false

/-- Access to a disk in memory. -/
def access : Disk (StateM MemoryDisk) where
  present path := return (← get).present path
  read path := return ((← get).read path).map fun text => text.toUTF8.toList
  makeDir path := change (makeDir · path)
  write path text := change (write · path text)

end MemoryDisk

end FastPath

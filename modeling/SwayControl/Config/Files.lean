/-!
Paths and the files they lead to. A path is absolute or begins at the working directory; its parts are
followed one by one, and only directories can be passed through.
-/

namespace SwayControl

/-- A path: the slashes it begins with if it is absolute, and its parts. -/
structure Path where
  root : String
  parts : List String
deriving DecidableEq, Repr

/-- Where a file or directory is: the names from the root on. -/
abbrev Location := List String

namespace Path

/-- The path that a text spells. Empty parts and single points count for nothing; two slashes in front
are kept as two. -/
def ofText (text : String) : Path :=
  let root :=
    if text.startsWith "//" && !text.startsWith "///" then "//"
    else if text.startsWith "/" then "/"
    else ""
  ⟨root, (text.splitOn "/").filter fun part => part != "" && part != "."⟩

/-- A path as text; the working directory itself is a point. -/
def text (p : Path) : String :=
  let text := p.root ++ "/".intercalate p.parts
  if text.isEmpty then "." else text

def append (p : Path) (parts : List String) : Path := { p with parts := p.parts ++ parts }

def ofLocation (location : Location) : Path := ⟨"/", location⟩

/-- Where a path begins, seen from a working directory. -/
def origin (p : Path) (working : Location) : Location := if p.root.isEmpty then working else []

end Path

/-- The files there are, with their texts, and directories besides those that hold files. -/
structure FileTree where
  files : List (Location × String)
  directories : List Location
deriving Repr

namespace FileTree

def file? (t : FileTree) (location : Location) : Option String := t.files.lookup location

def isDirectory (t : FileTree) (location : Location) : Bool :=
  location.isEmpty ||
    (t.file? location).isNone &&
      (t.directories ++ t.files.map Prod.fst).any fun other => location.isPrefixOf other

/-- The location that parts lead to, if all that is passed through are directories. -/
def follow (t : FileTree) (location : Location) : List String → Option Location
  | [] => some location
  | part :: rest =>
    -- What is passed through must be a directory, also where the next part leads up again.
    if !t.isDirectory location then none
    else if part == ".." then t.follow location.dropLast rest
    else t.follow (location ++ [part]) rest

/-- The text of the file that a path leads to, if it leads to one. -/
def read? (t : FileTree) (working : Location) (p : Path) : Option String :=
  (t.follow (p.origin working) p.parts).bind t.file?

def isFile (t : FileTree) (working : Location) (p : Path) : Bool := (t.read? working p).isSome

end FileTree

/-- The location that parts lead to whether anything is there or not. -/
def Location.resolve (location : Location) : List String → Location
  | [] => location
  | part :: rest =>
    if part == ".." then Location.resolve location.dropLast rest
    else Location.resolve (location ++ [part]) rest

/-- The location of a path, seen from a working directory. -/
def Path.location (p : Path) (working : Location) : Location :=
  Location.resolve (p.origin working) p.parts

/-- The locations that a path passes through. -/
def Path.passed (p : Path) (working : Location) : List Location :=
  (List.range p.parts.length).map fun count =>
    Location.resolve (p.origin working) (p.parts.take count)

/-- The directory that a location lies in. The root lies in itself. -/
def Location.parent (location : Location) : Location := location.dropLast

/-- From any other location it is shorter to the root from its parent. -/
theorem Location.length_parent_lt {location : Location} (h : location.parent ≠ location) :
    location.parent.length < location.length := by
  cases location with
  | nil => exact absurd rfl h
  | cons _ _ => simp [Location.parent]

/-- A location, and those of all directories that it lies in, the nearest first. -/
def Location.ancestors (location : Location) : List Location :=
  (List.range (location.length + 1)).map fun count => location.take (location.length - count)

/-- What surrounds a run of the program: the variables of its environment in order, the files, the working
directory, the home directory that the system has for the user if it has one, and how deep JSON may nest
for its reader. -/
structure Surroundings where
  environment : List (String × String)
  tree : FileTree
  working : Location
  account : Option String
  nesting : Nat
deriving Repr

/-- The value of a variable, unless it is missing or empty. -/
def Surroundings.lookup? (s : Surroundings) (name : String) : Option String :=
  (s.environment.lookup name).filter fun value => !value.isEmpty

end SwayControl

/-!
# Files

What may go wrong with the text of a file, and trees of files that are known beforehand. A path is
followed name by name, and every name but the last has to be that of a directory. Names and paths
have a greatest length, counted in bytes.
-/

set_option autoImplicit false

namespace AspectQuery

inductive FileFault where
  | absent
  | directory
  /-- A part of the path before the last is no directory. -/
  | throughFile
  | nameTooLong
  | notText
  deriving DecidableEq

namespace FileFault

def message : FileFault → String
  | .absent => "No such file or directory (os error 2)"
  | .directory => "Is a directory (os error 21)"
  | .throughFile => "Not a directory (os error 20)"
  | .nameTooLong => "File name too long (os error 36)"
  | .notText => "stream did not contain valid UTF-8"

/-- There is something at the path. -/
def present : FileFault → Bool
  | .absent => false
  | .directory => true
  | .throughFile => false
  | .nameTooLong => false
  | .notText => true

end FileFault

/-- The names on a path. -/
abbrev Location := List String

/-- The most bytes of a name. -/
def nameLimit : Nat := 255

/-- The most bytes of a path. -/
def pathLimit : Nat := 4095

def isNameTooLong (name : String) : Bool := nameLimit < name.utf8ByteSize

structure FileTree where
  workingDirectory : Location
  files : List (Location × String)
  directories : List Location

namespace FileTree

/-- The names of a path between its slashes. -/
def names (path : String) : List String := path.splitOn "/"

def start (t : FileTree) (path : String) : Location :=
  if path.startsWith "/" then [] else t.workingDirectory

/-- A directory is one by itself or by what is in it. -/
def isDirectory (t : FileTree) (l : Location) : Bool :=
  l.isEmpty || t.directories.any l.isPrefixOf ||
    t.files.any fun f => l.isPrefixOf f.1 && l != f.1

def locationFault (t : FileTree) (l : Location) : FileFault :=
  if (t.files.lookup l).isSome then .throughFile else .absent

/-- Follows names from a location, as long as they lead through directories. -/
def follow (t : FileTree) : Location → List String → Except FileFault Location
  | l, [] => .ok l
  | l, name :: rest =>
    if t.isDirectory l then
      if name = "" ∨ name = "." then t.follow l rest
      else if name = ".." then t.follow l.dropLast rest
      else if isNameTooLong name then .error .nameTooLong
      else t.follow (l ++ [name]) rest
    else .error (t.locationFault l)

/-- The text of the file at a path. -/
def read (t : FileTree) (path : String) : Except FileFault String :=
  if path.isEmpty then .error .absent
  else if pathLimit < path.utf8ByteSize then .error .nameTooLong
  else
    match t.follow (t.start path) (names path) with
    | .error e => .error e
    | .ok l =>
      match t.files.lookup l with
      | some text => .ok text
      | none => .error (if t.isDirectory l then .directory else .absent)

end FileTree

end AspectQuery

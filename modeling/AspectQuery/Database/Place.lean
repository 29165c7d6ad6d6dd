import AspectQuery.Database
import AspectQuery.Database.Name
import AspectQuery.Files
/-!
# Where databases are

A database is looked for where its path leads by spelling alone: a name followed by two points is
taken away whether or not there is such a directory.
-/

set_option autoImplicit false

namespace AspectQuery.FileTree

/-- The most bytes of the path of a database, from the root on. -/
def databasePathLimit : Nat := 511

/-- The location that names lead to, whether or not they are there; none below a file. -/
def spell (t : FileTree) : Location → List String → Option Location
  | l, [] => some l
  | l, name :: rest =>
    if name = "" ∨ name = "." then t.spell l rest
    else if name = ".." then t.spell l.dropLast rest
    else if isNameTooLong name ∨ (t.files.lookup l).isSome then none
    else t.spell (l ++ [name]) rest

/-- The location of the database that a path spells. -/
def databaseLocation? (t : FileTree) (path : String) : Option Location :=
  (t.spell (t.start path) (names path)).filter fun l =>
    l.foldl (fun size name => size + name.utf8ByteSize + 1) 0 ≤ databasePathLimit

/-- A new file may be put where there is no directory, into a directory. -/
def canHold (t : FileTree) (l : Location) : Bool := !t.isDirectory l && t.isDirectory l.dropLast

/-- Opens the database of a name, where those at certain locations have their tables. Other files
count as databases without tables. -/
def openDatabase (t : FileTree) (filled : List Location) (name : String) :
    Except StoreError Database :=
  let failed := .error (.sqlite "unable to open database file")
  match DatabaseName.ofText? name with
  | none => failed
  | some .temporary => .ok .withoutTables
  | some (.file path creates) =>
    match t.databaseLocation? path with
    | none => failed
    | some l =>
      if l ∈ filled then .ok .withoutRows
      else if (t.files.lookup l).isSome ∨ (creates ∧ t.canHold l) then .ok .withoutTables
      else failed

end AspectQuery.FileTree

import AspectQuery.CommandLine
import AspectQuery.Database.Name
/-!
# The program
-/

set_option autoImplicit false

namespace AspectQuery.Main

def isDirectory (path : String) : IO Bool := do
  try
    let _ ← IO.FS.realPath path >>= fun p => p.readDir
    return true
  catch _ => return false

def readFile (path : String) : IO (Except FileFault String) := do
  try
    let bytes ← IO.FS.readBinFile path
    match Utf8.decode bytes.toList with
    | .ok text => return .ok text
    | .error _ => return .error .notText
  catch _ => return .error (if ← isDirectory path then .directory else .absent)

def cannotOpen : StoreError := .sqlite "unable to open database file"

/-- A file that starts as databases do has its tables; any other has none. -/
def openFile (path : String) (creates : Bool) : IO (Except StoreError Database) := do
  try
    let bytes ← IO.FS.withFile path .readWrite fun handle => handle.read 16
    let tables := bytes.toList = Utf8.encode "SQLite format 3" ++ [0]
    return .ok (if tables then .withoutRows else .withoutTables)
  catch _ =>
    if !creates then return .error cannotOpen
    try
      IO.FS.writeFile path ""
      return .ok .withoutTables
    catch _ => return .error cannotOpen

def openDatabase (name : String) : IO (Except StoreError Database) := do
  match DatabaseName.ofText? name with
  | none => return .error cannotOpen
  | some .temporary => return .ok .withoutTables
  | some (.file path creates) => openFile path creates

/-- The value of a variable as the system keeps it, since the library replaces the bytes of a value
that are no text; where the environment cannot be read, the value that the library gives. -/
def lookup? (name : String) : IO (Option String) := do
  try
    let block ← IO.FS.readBinFile "/proc/self/environ"
    return (Environment.ofBlock block.toList).text? name
  catch _ => IO.getEnv name

def machine : CommandLine.Machine IO where
  read := readFile
  lookup? := lookup?
  openDatabase := openDatabase

end AspectQuery.Main

def main (arguments : List String) : IO UInt32 := do
  let outcome ← AspectQuery.CommandLine.run AspectQuery.Main.machine arguments
  IO.print outcome.output
  IO.eprint outcome.errors
  return outcome.code

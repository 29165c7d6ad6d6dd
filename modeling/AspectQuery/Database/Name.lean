import AspectQuery.Json.Reader
import AspectQuery.Text.Utf8
/-!
# Names of databases

A database is named by the path of its file, or by an address that starts with `file:`. An address
may spell bytes of the path by their numbers, and it may have options behind a question mark. Some
names are those of temporary databases.
-/

set_option autoImplicit false

namespace AspectQuery

inductive DatabaseName where
  | temporary
  /-- The file may have to be there already. -/
  | file (path : String) (creates : Bool)
  deriving DecidableEq

namespace DatabaseName

def ofPath (path : String) (creates : Bool) : DatabaseName :=
  if path = "" ∨ path = ":memory:" then .temporary else .file path creates

/-! ## Addresses -/

/-- The bytes that a part of an address spells. The byte zero ends it. -/
def bytes : List Char → List UInt8
  | [] => []
  | '%' :: a :: b :: rest =>
    match Json.hexDigit? a, Json.hexDigit? b with
    | some high, some low =>
      if high * 16 + low = 0 then [] else .ofNat (high * 16 + low) :: bytes rest
    | _, _ => Utf8.encode "%" ++ bytes (a :: b :: rest)
  | c :: rest => Utf8.encode (String.singleton c) ++ bytes rest

/-- A part of an address that spells no text stands for itself. -/
def decoded (cs : List Char) : String :=
  match Utf8.decode (bytes cs) with
  | .ok text => text
  | .error _ => String.ofList cs

/-- What follows the name of the machine, which has to be this one. -/
def skipMachine? : List Char → Option (List Char)
  | '/' :: '/' :: cs =>
    if cs.takeWhile (· != '/') ∈ ["".toList, "localhost".toList] then
      some (cs.dropWhile (· != '/'))
    else none
  | cs => some cs

/-- How a file is opened: what an address asks for must not rank above what it asked for before. -/
structure Access where
  rank : Nat
  /-- The greatest rank that may be asked for behind it. -/
  ceiling : Nat
  creates : Bool
  temporary : Bool

def Access.full : Access := ⟨6, 6, true, false⟩

def Access.ofName? : String → Option Access
  | "ro" => some ⟨1, 1, false, false⟩
  | "rw" => some ⟨2, 2, false, false⟩
  | "rwc" => some .full
  | "memory" => some ⟨0, 128, false, true⟩
  | _ => none

/-- The file systems that an address may choose; the last one is in memory. -/
def fileSystems : List String := ["unix", "unix-none", "unix-dotfile", "unix-excl", "memdb"]

structure Options where
  access : Access := .full
  fileSystem : String := "unix"

/-- An option that is not known changes nothing. -/
def Options.add? (o : Options) : String × String → Option Options
  | ("mode", name) => do
    let access ← Access.ofName? name
    if o.access.ceiling < access.rank then none else some { o with access }
  | ("cache", name) => if name ∈ ["shared", "private"] then some o else none
  | ("vfs", fileSystem) => some { o with fileSystem }
  | _ => some o

/-- The options between the ampersands, without those that have no name. -/
def options (cs : List Char) : List (String × String) :=
  (((String.ofList cs).splitOn "&").map fun part =>
    (decoded (part.toList.takeWhile (· != '=')),
      decoded (part.toList.dropWhile (· != '=')).tail)).filter fun o => o.1 != ""

/-- What an address stands for; nothing behind a number sign belongs to it. -/
def ofAddress? (cs : List Char) : Option DatabaseName := do
  let cs := (← skipMachine? cs).takeWhile (· != '#')
  let o ← (options (cs.dropWhile (· != '?')).tail).foldlM Options.add? {}
  if o.fileSystem ∉ fileSystems then none
  else if o.access.temporary ∨ o.fileSystem = "memdb" then some .temporary
  else some (ofPath (decoded (cs.takeWhile (· != '?'))) o.access.creates)

/-- What a text names; the character zero is in no name. -/
def ofText? (s : String) : Option DatabaseName :=
  if s.contains '\x00' then none
  else if s.startsWith "file:" then ofAddress? (s.toList.drop 5)
  else some (ofPath s true)

end DatabaseName

end AspectQuery

import AspectQuery.Document
/-!
# Tables of TOML

A table is filled in bits: by headers, by dotted names, and by headers of tables inside it. A table
that a header or a dotted name has defined is not defined again by the other of the two. Further
elements of an array of tables are added by repeating its header, and names reach its last element.
-/

set_option autoImplicit false

namespace AspectQuery.Toml

/-- How a table came about. -/
inductive Origin where
  | header
  /-- On the way to the table of a header. -/
  | path
  | dotted
  deriving DecidableEq

inductive Node where
  | value (d : Document)
  | table (origin : Origin) (entries : List (String × Node))
  | tables (earlier : List (List (String × Node))) (last : List (String × Node))

abbrev Entries := List (String × Node)

namespace Node

mutual

def document : Node → Document
  | .value d => d
  | .table _ entries => .record (entriesMembers entries)
  | .tables earlier last =>
    .list (elementsDocuments earlier ++ [.record (entriesMembers last)])

def entriesMembers : List (String × Node) → List (String × Document)
  | [] => []
  | (name, node) :: rest => (name, node.document) :: entriesMembers rest

def elementsDocuments : List (List (String × Node)) → List Document
  | [] => []
  | entries :: rest => .record (entriesMembers entries) :: elementsDocuments rest

end

end Node

namespace Entries

def replace (entries : Entries) (name : String) (node : Node) : Entries :=
  entries.map fun e => if e.1 = name then (name, node) else e

/-- Changes the table at a path, making tables on the way. Dotted names do not reach into tables
that have a header. -/
def alterAt (dotted : Bool) (f : Origin → Entries → Option Entries) :
    List String → Origin → Entries → Option Entries
  | [], origin, entries => f origin entries
  | name :: rest, _, entries =>
    match entries.lookup name with
    | none => do
      let origin := if dotted then .dotted else .path
      let inner ← alterAt dotted f rest origin []
      return entries ++ [(name, .table origin inner)]
    | some (.value _) => none
    | some (.table origin inner) =>
      if dotted ∧ origin = .header then none
      else (alterAt dotted f rest origin inner).map fun inner =>
        entries.replace name (.table origin inner)
    | some (.tables earlier last) =>
      (alterAt dotted f rest .header last).map fun last =>
        entries.replace name (.tables earlier last)

/-- Only a table that came about by dotted names takes further ones. -/
def put (isPlain : Bool) (name : String) (d : Document) (origin : Origin) (entries : Entries) :
    Option Entries :=
  if isPlain = decide (origin = .dotted) then none
  else if (entries.lookup name).isSome then none
  else some (entries ++ [(name, .value d)])

/-- Gives the last of dotted names a value. -/
def set (names : List String) (d : Document) (origin : Origin) (entries : Entries) :
    Option Entries :=
  match names.getLast? with
  | none => none
  | some name => alterAt true (put names.dropLast.isEmpty name d) names.dropLast origin entries

def openTable (name : String) (entries : Entries) : Option Entries :=
  match entries.lookup name with
  | none => some (entries ++ [(name, .table .header [])])
  | some (.table .path inner) => some (entries.replace name (.table .header inner))
  | some _ => none

def openElement (name : String) (entries : Entries) : Option Entries :=
  match entries.lookup name with
  | none => some (entries ++ [(name, .tables [] [])])
  | some (.tables earlier last) => some (entries.replace name (.tables (earlier ++ [last]) []))
  | some _ => none

/-- What the header of a table, or of an element of an array, does to the tables that are there. -/
def header (element : Bool) (names : List String) (entries : Entries) : Option Entries :=
  match names.getLast? with
  | none => none
  | some name =>
    alterAt false (fun _ => if element then openElement name else openTable name) names.dropLast
      .header entries

/-- Gives dotted names a value in the table of the latest header. -/
def setIn (table : List String) (names : List String) (d : Document) (entries : Entries) :
    Option Entries :=
  alterAt false (set names d) table .header entries

end Entries

end AspectQuery.Toml

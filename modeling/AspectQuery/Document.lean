import AspectQuery.Number.Binary64
/-!
# Documents

A document is what a JSON or TOML text says before anybody asks for a certain type: names of a
record keep their order and may be repeated. A value of a record type is read from a record or, by
position, from a list; which of the two, and what may stand for a bare name, depends on the format.
-/

set_option autoImplicit false

namespace AspectQuery

inductive Document where
  | null
  | boolean (b : Bool)
  | integer (i : Int)
  | float (x : Binary64)
  | text (s : String)
  | list (items : List Document)
  | record (members : List (String × Document))
  /-- What is spelled well and denotes nothing, such as a number out of range. -/
  | unreadable

namespace Document

mutual

/-- How many lists and records enclose the innermost value. -/
def nesting : Document → Nat
  | .list items => nestingList items + 1
  | .record members => nestingMembers members + 1
  | _ => 0

def nestingList : List Document → Nat
  | [] => 0
  | d :: rest => max d.nesting (nestingList rest)

def nestingMembers : List (String × Document) → Nat
  | [] => 0
  | (_, d) :: rest => max d.nesting (nestingMembers rest)

end

mutual

/-- Every literal in the document denotes something. -/
def readable : Document → Bool
  | .list items => readableList items
  | .record members => readableMembers members
  | .unreadable => false
  | _ => true

def readableList : List Document → Bool
  | [] => true
  | d :: rest => d.readable && readableList rest

def readableMembers : List (String × Document) → Bool
  | [] => true
  | (_, d) :: rest => d.readable && readableMembers rest

end

def isNull : Document → Bool
  | .null => true
  | _ => false

def text? : Document → Option String
  | .text s => some s
  | _ => none

def boolean? : Document → Option Bool
  | .boolean b => some b
  | _ => none

/-- An unsigned number of 64 bits. -/
def natural? : Document → Option Nat
  | .integer i => if 0 ≤ i ∧ i < Nat.pow 2 64 then some i.toNat else none
  | _ => none

/-- A text of exactly one character. -/
def character? : Document → Option Char
  | .text s =>
    match s.toList with
    | [c] => some c
    | _ => none
  | _ => none

/-- Null stands for an absent value. -/
def optional? {α : Type} (read : Document → Option α) : Document → Option (Option α)
  | .null => some none
  | d => (read d).map some

def list? {α : Type} (read : Document → Option α) : Document → Option (List α)
  | .list items => items.mapM read
  | _ => none

/-- What a format accepts beside the plain forms of names and records. -/
structure Conventions where
  /-- What may stand at `x` where `{name: x}` is read as the bare name. -/
  bare : Document → Bool
  /-- A record given by position may have more items than the record has members. -/
  surplus : Bool
  /-- A member of another name has to denote something. -/
  readsOthers : Bool

namespace Conventions

def json : Conventions := ⟨isNull, false, false⟩

/-- Inside a value whose type is only known from one of its members. -/
def tagged : Conventions where
  bare
    | .null => true
    | .record [] => true
    | _ => false
  surplus := false
  readsOthers := true

def toml : Conventions where
  bare
    | .list [] => true
    | .record [] => true
    | _ => false
  surplus := true
  readsOthers := true

end Conventions

/-- One of a fixed set of names. -/
def name? (conv : Conventions) : Document → Option String
  | .text s => some s
  | .record [(s, d)] => if conv.bare d then some s else none
  | _ => none

/-- The member of a record under a name, which may not be repeated. -/
def member? (members : List (String × Document)) (name : String) : Option (Option Document) :=
  match members.filter fun m => m.1 == name with
  | [] => some none
  | [m] => some (some m.2)
  | _ => none

/-- The members of a record type, in its order; those of other names are passed over, and so is
what a list has too much. -/
def members? (conv : Conventions) (names : List String) :
    Document → Option (List (Option Document))
  | .record members =>
    if conv.readsOthers && members.any fun m => !names.contains m.1 && !m.2.readable then none
    else names.mapM (member? members)
  | .list items =>
    if conv.surplus || decide (items.length ≤ names.length) then
      some ((List.range names.length).map fun i => items[i]?)
    else none
  | _ => none

/-- A member that has to be there. -/
def required {α : Type} (read : Document → Option α) (d : Option Document) : Option α :=
  d.bind read

/-- A member with a value of its own where it is absent. -/
def defaulted {α : Type} (read : Document → Option α) (fallback : α) : Option Document → Option α
  | none => some fallback
  | some d => read d

end Document

end AspectQuery

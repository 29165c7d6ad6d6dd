import AspectQuery.Filter.Pattern
import AspectQuery.Query.Values
import AspectQuery.Text.Letter
/-!
# Groups of values

The groups of single values are folded into fewer ones, each with a filter for its items. By first
character, texts that start with a letter are taken together by that letter in capitals, and all
other values form a group of their own without a filter.
-/

set_option autoImplicit false

namespace AspectQuery

structure ResultGroup where
  name : String
  count : UInt64
  filter : Option Filter

def ResultGroup.document (g : ResultGroup) : Document :=
  .record [("name", .text g.name), ("count", .integer g.count.toNat),
    ("filter", Request.filterDocument g.filter)]

inductive Grouping where
  | firstCharacter
  deriving DecidableEq

namespace Grouping

def name : Grouping → String
  | .firstCharacter => "first-character"

/-- The grouping of a name in any letter case; without one, the name in lower case. -/
def parse (s : String) : Except String Grouping :=
  match Text.lower s with
  | "first-character" => .ok .firstCharacter
  | "first_character" => .ok .firstCharacter
  | s => .error s

def unknownMessage (name : String) : String := "unknown grouping function '" ++ name ++ "'"

def ofDocument? (conv : Document.Conventions) (d : Document) : Option Grouping :=
  (d.name? conv).bind fun s => if s = firstCharacter.name then some .firstCharacter else none

/-- The name of the group of all values without a first letter. -/
def otherName : String := "#"

def firstLetter? : Value → Option Char
  | .text s => s.toList.head?.filter Text.isAlphabetic
  | _ => none

def groupName (v : Value) : String :=
  match firstLetter? v with
  | some c => String.ofList (Text.upperChar c)
  | none => otherName

def escape : Char := '\\'

def groupFilter (path : AttributePath) (name : String) : Option Filter :=
  if name = otherName then none
  else some (.likeIgnoreCase path (Pattern.startingWith name escape) escape)

/-- The numbers of items by the names of their groups. -/
def counts (groups : List ValueGroup) : ByName UInt64 :=
  groups.foldl (fun m g => m.alter (groupName g.value) fun n => n.getD 0 + g.count) {}

def apply (grouping : Grouping) (path : AttributePath) (groups : List ValueGroup) :
    List ResultGroup :=
  match grouping with
  | .firstCharacter => (counts groups).entries.map fun e => ⟨e.1, e.2, groupFilter path e.1⟩

end Grouping

end AspectQuery

import AspectQuery.Direction
import AspectQuery.Filter.Document
/-!
# Requests

A request asks for the items that have all necessary aspects and pass the filter, with the selected
attributes of these and of the optional aspects, sorted and one page of them.
-/

set_option autoImplicit false

namespace AspectQuery

structure SortKey where
  path : AttributePath
  direction : Direction
  deriving DecidableEq

namespace SortKey

def ofDocument? (d : Document) : Option SortKey := do
  match ← d.members? .json ["attribute", "direction"] with
  | [path, direction] =>
    return ⟨← Document.required (AttributePath.ofDocument? .json) path,
      ← Document.defaulted Direction.ofDocument? .ascending direction⟩
  | _ => none

def document (k : SortKey) : Document :=
  .record [("attribute", k.path.document), ("direction", .text k.direction.name)]

end SortKey

structure Request where
  necessary : List AspectId := []
  optional : List AspectId := []
  select : List AttributePath := []
  filter : Option Filter := none
  sort : List SortKey := []
  limit : Option UInt64 := none
  offset : Option UInt64 := none

namespace Request

def count? (d : Document) : Option UInt64 := d.natural?.map UInt64.ofNat

def memberNames : List String :=
  ["necessary_aspects", "optional_aspects", "select", "filter", "sort", "limit", "offset"]

def ofDocument? (d : Document) : Option Request := do
  match ← d.members? .json memberNames with
  | [necessary, optional, select, filter, sort, limit, offset] =>
    return {
      necessary := ← Document.defaulted (Document.list? Document.text?) [] necessary
      optional := ← Document.defaulted (Document.list? Document.text?) [] optional
      select := ←
        Document.defaulted (Document.list? (AttributePath.ofDocument? .json)) [] select
      filter := ← Document.defaulted (Document.optional? Filter.ofDocument?) none filter
      sort := ← Document.defaulted (Document.list? SortKey.ofDocument?) [] sort
      limit := ← Document.defaulted (Document.optional? count?) none limit
      offset := ← Document.defaulted (Document.optional? count?) none offset }
  | _ => none

/-- How deep the filter of a request is nested. -/
def filterNesting (d : Document) : Nat :=
  match d.members? .json memberNames with
  | some [_, _, _, some filter, _, _, _] => filter.nesting
  | _ => 0

/-- The request that a text in JSON spells, in which the filter stands one level below the
request. -/
def ofJson? (text : String) : Option Request := do
  let d ← Json.read? text
  if filterNesting d < Filter.nestingLimit then ofDocument? d else none

def countDocument : Option UInt64 → Document
  | none => .null
  | some n => .integer n.toNat

def filterDocument : Option Filter → Document
  | none => .null
  | some filter => filter.document

def document (r : Request) : Document :=
  .record [
    ("necessary_aspects", .list (r.necessary.map Document.text)),
    ("optional_aspects", .list (r.optional.map Document.text)),
    ("select", .list (r.select.map AttributePath.document)),
    ("filter", filterDocument r.filter),
    ("sort", .list (r.sort.map SortKey.document)),
    ("limit", countDocument r.limit),
    ("offset", countDocument r.offset)]

end Request

end AspectQuery

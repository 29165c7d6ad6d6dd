import AspectQuery.ByName
import AspectQuery.Value
/-!
# Media items

An item has aspects, and each aspect values of attributes: one value, or the values of a collection
in their order.
-/

set_option autoImplicit false

namespace AspectQuery

inductive AttributeValue where
  | single (v : Value)
  | collection (vs : List Value)
  deriving DecidableEq

abbrev ItemAspect := ByName AttributeValue

structure MediaItem where
  id : ItemId
  aspects : ByName ItemAspect := {}

namespace ItemAspect

/-- The value of an attribute that has one value. -/
def value? (a : ItemAspect) (name : String) : Option Value :=
  match a.get? name with
  | some (.single v) => some v
  | _ => none

/-- The values of a collection; none for any other attribute. -/
def values (a : ItemAspect) (name : String) : List Value :=
  match a.get? name with
  | some (.collection vs) => vs
  | _ => []

end ItemAspect

def AttributeValue.document : AttributeValue → Document
  | .single v => v.document
  | .collection vs => .list (vs.map Value.document)

namespace MediaItem

def aspect? (item : MediaItem) (id : String) : Option ItemAspect := item.aspects.get? id

def hasAspect (item : MediaItem) (id : String) : Bool := item.aspects.contains id

/-- Puts a value into an aspect that the item has; an item without it stays as it is. -/
def setAttribute (item : MediaItem) (aspect name : String) (v : AttributeValue) : MediaItem :=
  match item.aspect? aspect with
  | none => item
  | some a => { item with aspects := item.aspects.set aspect (a.set name v) }

def aspectDocument (id : String) (a : ItemAspect) : Document :=
  .record [("aspect", .text id),
    ("attributes", .record (a.entries.map fun e => (e.1, e.2.document)))]

def document (item : MediaItem) : Document :=
  .record [("id", .text item.id.text),
    ("aspects", .record (item.aspects.entries.map fun e => (e.1, aspectDocument e.1 e.2)))]

end MediaItem

end AspectQuery

import AspectQuery.Error
/-!
# Reading rows

A row answers a column with a value of any type; what is read from it has the type that the query
asks for.
-/

set_option autoImplicit false

namespace AspectQuery.Row

def cell (r : Row) (column : String) : Except QueryError Value :=
  (r.require column).mapError .store

def itemId (r : Row) (column : String) : Except QueryError ItemId := do
  let v ← r.cell column
  match v.coerce .id with
  | .ok (.id id) => return id
  | .ok v => throw (.decode column (.notAnId v))
  | .error e => throw (.decode column (.coercion e))

/-- A value of an attribute, in the type that it declares. -/
def attributeValue (r : Row) (target : Attribute) (column : String) :
    Except QueryError Value := do
  let v ← r.cell column
  match v.coerce target.valueType with
  | .ok v => return v
  | .error e => throw (.decode target.path.text (.coercion e))

def count (r : Row) (column : String) : Except QueryError UInt64 := do
  match ← r.cell column with
  | .integer i =>
    if 0 ≤ i.toInt then return .ofNat i.toInt.toNat
    else throw (.decode column (.notACount (.integer i)))
  | v => throw (.decode column (.notACount v))

end AspectQuery.Row

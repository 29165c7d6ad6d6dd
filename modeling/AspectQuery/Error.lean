import AspectQuery.Schema
import AspectQuery.Sql.Dialect
import AspectQuery.Store
/-!
# What may go wrong with a query
-/

set_option autoImplicit false

namespace AspectQuery

/-- The part of a statement that takes attributes of certain cardinalities only. -/
inductive CardinalityLimit where
  | collectionStatement
  | attributeJoin
  deriving DecidableEq

def CardinalityLimit.message : CardinalityLimit → String
  | .collectionStatement => "a collection statement"
  | .attributeJoin => "the attribute join planner"

/-- Why a value of a result row is not what was asked for. -/
inductive DecodeFault where
  | coercion (e : CoercionError)
  | notAnId (v : Value)
  | notACount (v : Value)

def DecodeFault.message : DecodeFault → String
  | .coercion e => e.message
  | .notAnId v => "expected an item id, got " ++ v.display
  | .notACount v => "expected a count, got " ++ v.display

inductive QueryError where
  | lookup (e : LookupError)
  | emptyInList (path : AttributePath)
  | similarToUnsupported (dialect : Sql.Dialect)
  | unsupportedCardinality (path : AttributePath) (cardinality : Cardinality)
      (limit : CardinalityLimit)
  | invalidFilterValue (path : AttributePath) (e : CoercionError)
  | unresolvedAttribute (path : AttributePath)
  /-- A column of a table that is not part of the statement. -/
  | foreignTable (id : Nat)
  | store (e : StoreError)
  | decode (column : String) (fault : DecodeFault)

namespace LookupError

def message : LookupError → String
  | .unknownAspect id => "Unknown aspect type '" ++ id ++ "'"
  | .unknownAttribute path =>
    "Unknown attribute '" ++ path.name ++ "' on aspect type '" ++ path.aspect ++ "'"

end LookupError

namespace QueryError

def message : QueryError → String
  | .lookup e => e.message
  | .emptyInList path => "IN filter on '" ++ path.text ++ "' has an empty value list"
  | .similarToUnsupported dialect =>
    "Operator SIMILAR TO is not supported by the " ++ dialect.name ++ " dialect"
  | .unsupportedCardinality path cardinality limit =>
    "Attribute '" ++ path.text ++ "' has " ++ cardinality.display ++ " cardinality, which " ++
      limit.message ++ " cannot handle"
  | .invalidFilterValue path e =>
    "Invalid filter value for '" ++ path.text ++ "': " ++ e.message
  | .unresolvedAttribute path =>
    "Attribute '" ++ path.text ++
      "' is used by the predicate but was never joined into the statement"
  | .foreignTable id => "Table " ++ toString id ++ " is not part of this statement"
  | .store e => e.message
  | .decode column fault => "Failed to decode column '" ++ column ++ "': " ++ fault.message

/-- The query names something that the schema does not have. -/
def isSchemaError : QueryError → Bool
  | .lookup _ => true
  | _ => false

/-- The query cannot be compiled against any data. -/
def isStructural : QueryError → Bool
  | .emptyInList _ => true
  | .similarToUnsupported _ => true
  | .unsupportedCardinality _ _ _ => true
  | .invalidFilterValue _ _ => true
  | _ => false

end QueryError

namespace Schema

def require (s : Schema) (id : AspectId) : Except QueryError Aspect :=
  (s.requireAspect id).mapError .lookup

def find (s : Schema) (path : AttributePath) : Except QueryError Attribute :=
  (s.lookup path).mapError .lookup

end Schema

end AspectQuery

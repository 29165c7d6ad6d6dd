import AspectQuery.AttributePath
import AspectQuery.Value
/-!
# Definitions of aspects

A definition says which aspects there are, which attributes they have, and where a table or a
column has a name of its own.
-/

set_option autoImplicit false

namespace AspectQuery

inductive Cardinality where
  | inline
  | manyToOne
  | oneToMany
  | manyToMany
  deriving DecidableEq

namespace Cardinality

/-- At most one value for each item. -/
def bounded : Cardinality → Bool
  | .inline => true
  | .manyToOne => true
  | .oneToMany => false
  | .manyToMany => false

/-- The word in definitions. -/
def name : Cardinality → String
  | .inline => "inline"
  | .manyToOne => "many_to_one"
  | .oneToMany => "one_to_many"
  | .manyToMany => "many_to_many"

/-- The word in messages. -/
def display : Cardinality → String
  | .inline => "inline"
  | .manyToOne => "many-to-one"
  | .oneToMany => "one-to-many"
  | .manyToMany => "many-to-many"

def ofName? (s : String) : Option Cardinality :=
  [inline, manyToOne, oneToMany, manyToMany].find? fun c => c.name == s

end Cardinality

structure AttributeDefinition where
  name : String
  cardinality : Cardinality
  valueType : ValueType
  column : Option String := none
  valueTable : Option String := none
  junctionTable : Option String := none

structure AspectDefinition where
  id : AspectId
  name : Option String := none
  table : Option String := none
  attributes : List AttributeDefinition := []

structure SchemaDefinition where
  aspects : List AspectDefinition := []

namespace AttributeDefinition

def ofDocument? (conv : Document.Conventions) (d : Document) : Option AttributeDefinition := do
  let names := ["name", "cardinality", "type", "column", "value_table", "junction_table"]
  let override := Document.defaulted (Document.optional? Document.text?) none
  match ← d.members? conv names with
  | [name, cardinality, valueType, column, valueTable, junctionTable] =>
    return {
      name := ← Document.required Document.text? name
      cardinality := ←
        Document.required (fun d => (d.name? conv).bind Cardinality.ofName?) cardinality
      valueType := ← Document.required (fun d => (d.name? conv).bind ValueType.ofName?) valueType
      column := ← override column
      valueTable := ← override valueTable
      junctionTable := ← override junctionTable }
  | _ => none

end AttributeDefinition

namespace AspectDefinition

def ofDocument? (conv : Document.Conventions) (d : Document) : Option AspectDefinition := do
  let override := Document.defaulted (Document.optional? Document.text?) none
  match ← d.members? conv ["id", "name", "table", "attribute"] with
  | [id, name, table, attributes] =>
    return {
      id := ← Document.required Document.text? id
      name := ← override name
      table := ← override table
      attributes := ←
        Document.defaulted (Document.list? (AttributeDefinition.ofDocument? conv)) [] attributes }
  | _ => none

end AspectDefinition

namespace SchemaDefinition

def ofDocument? (conv : Document.Conventions) (d : Document) : Option SchemaDefinition := do
  match ← d.members? conv ["aspect"] with
  | [aspects] =>
    return ⟨← Document.defaulted (Document.list? (AspectDefinition.ofDocument? conv)) [] aspects⟩
  | _ => none

end SchemaDefinition

end AspectQuery

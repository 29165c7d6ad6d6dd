import AspectQuery.Schema
/-!
# From definitions to a schema

Every name that a definition leaves open is formed by the naming. A schema comes about only if all
names that statements will use are identifiers and no aspect and no attribute of an aspect is
defined twice.
-/

set_option autoImplicit false

namespace AspectQuery

namespace AttributeDefinition

def storage (naming : Naming) (aspect : AspectId) (d : AttributeDefinition) : Storage :=
  let column := d.column.getD (Naming.column d.name)
  let valueTable := d.valueTable.getD (naming.valueTable aspect d.name)
  match d.cardinality with
  | .inline => .inline column
  | .manyToOne => .manyToOne column valueTable
  | .oneToMany => .oneToMany valueTable
  | .manyToMany =>
    .manyToMany (d.junctionTable.getD (naming.junctionTable aspect d.name)) valueTable

end AttributeDefinition

def Storage.check : Storage → Except SchemaError Unit
  | .inline column => checkIdentifier "column" column
  | .manyToOne foreignKey valueTable => do
    checkIdentifier "column" foreignKey
    checkIdentifier "value table" valueTable
  | .oneToMany collectionTable => checkIdentifier "collection table" collectionTable
  | .manyToMany junctionTable valueTable => do
    checkIdentifier "junction table" junctionTable
    checkIdentifier "value table" valueTable

namespace AttributeDefinition

def resolve (naming : Naming) (aspect : AspectId) (d : AttributeDefinition) :
    Except SchemaError Attribute := do
  let storage := d.storage naming aspect
  storage.check
  return ⟨aspect, d.name, d.valueType, storage⟩

end AttributeDefinition

namespace AspectDefinition

/-- The attributes in their order, where `seen` are the names before them. -/
def resolveAttributes (naming : Naming) (aspect : AspectId) :
    List String → List AttributeDefinition → Except SchemaError (List Attribute)
  | _, [] => .ok []
  | seen, d :: rest => do
    if d.name ∈ seen then throw (.duplicateAttribute aspect d.name)
    let a ← d.resolve naming aspect
    let others ← resolveAttributes naming aspect (d.name :: seen) rest
    return a :: others

def resolve (naming : Naming) (d : AspectDefinition) : Except SchemaError Aspect := do
  let table := d.table.getD (naming.aspectTable d.id)
  checkIdentifier "aspect table" table
  let attributes ← resolveAttributes naming d.id [] d.attributes
  return ⟨d.id, d.name.getD d.id, table, attributes⟩

end AspectDefinition

namespace Schema

/-- Puts an aspect in its place by id. -/
def insertAspect (a : Aspect) : List Aspect → List Aspect
  | [] => [a]
  | b :: rest => if a.id < b.id then a :: b :: rest else b :: insertAspect a rest

/-- Adds the aspects to those that are there. -/
def addAspects (naming : Naming) :
    List Aspect → List AspectDefinition → Except SchemaError (List Aspect)
  | aspects, [] => .ok aspects
  | aspects, d :: rest => do
    let a ← d.resolve naming
    if aspects.any fun b => b.id == a.id then throw (.duplicateAspect a.id)
    addAspects naming (insertAspect a aspects) rest

def ofDefinition (d : SchemaDefinition) (naming : Naming) : Except SchemaError Schema := do
  naming.validate
  let aspects ← addAspects naming [] d.aspects
  return ⟨aspects, naming⟩

end Schema

end AspectQuery

import AspectQuery.Schema.Definition
import AspectQuery.Schema.Naming
/-!
# Schemas

A schema holds the aspects in the order of their ids, each with its main table and its attributes,
and where the values of every attribute are stored:

* inline: in a column of the main table;
* many-to-one: in a value table, to which a column of the main table refers;
* one-to-many: in a table of item ids and values;
* many-to-many: in a value table, with a junction table of item ids and value ids.
-/

set_option autoImplicit false

namespace AspectQuery

inductive Storage where
  | inline (column : String)
  | manyToOne (foreignKey valueTable : String)
  | oneToMany (collectionTable : String)
  | manyToMany (junctionTable valueTable : String)
  deriving DecidableEq

def Storage.cardinality : Storage → Cardinality
  | .inline _ => .inline
  | .manyToOne _ _ => .manyToOne
  | .oneToMany _ => .oneToMany
  | .manyToMany _ _ => .manyToMany

structure Attribute where
  aspect : AspectId
  name : String
  valueType : ValueType
  storage : Storage
  deriving DecidableEq

namespace Attribute

def cardinality (a : Attribute) : Cardinality := a.storage.cardinality

def bounded (a : Attribute) : Bool := a.cardinality.bounded

def path (a : Attribute) : AttributePath := ⟨a.aspect, a.name⟩

end Attribute

structure Aspect where
  id : AspectId
  name : String
  table : String
  attributes : List Attribute
  deriving DecidableEq

def Aspect.attribute? (a : Aspect) (name : String) : Option Attribute :=
  a.attributes.find? fun x => x.name == name

structure Schema where
  aspects : List Aspect := []
  naming : Naming := {}

/-- Why a name cannot be looked up. -/
inductive LookupError where
  | unknownAspect (id : AspectId)
  | unknownAttribute (path : AttributePath)
  deriving DecidableEq

namespace Schema

def aspect? (s : Schema) (id : AspectId) : Option Aspect := s.aspects.find? fun a => a.id == id

def requireAspect (s : Schema) (id : AspectId) : Except LookupError Aspect :=
  match s.aspect? id with
  | some a => .ok a
  | none => .error (.unknownAspect id)

def lookup (s : Schema) (path : AttributePath) : Except LookupError Attribute :=
  match s.aspect? path.aspect with
  | none => .error (.unknownAspect path.aspect)
  | some a =>
    match a.attribute? path.name with
    | some x => .ok x
    | none => .error (.unknownAttribute path)

end Schema

end AspectQuery

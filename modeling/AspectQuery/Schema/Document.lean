import AspectQuery.Schema
/-!
# Schemas as documents

All that a schema says: its aspects in order, the attributes of each with the places where their
values are stored, and its naming.
-/

set_option autoImplicit false

namespace AspectQuery

def Storage.document : Storage → Document
  | .inline column => .record [("column", .text column)]
  | .manyToOne foreignKey valueTable =>
    .record [("foreign_key", .text foreignKey), ("value_table", .text valueTable)]
  | .oneToMany table => .record [("collection_table", .text table)]
  | .manyToMany junction valueTable =>
    .record [("junction_table", .text junction), ("value_table", .text valueTable)]

def Attribute.document (a : Attribute) : Document :=
  .record [("path", .text a.path.text), ("name", .text a.name),
    ("cardinality", .text a.cardinality.display), ("bounded", .boolean a.bounded),
    ("type", .text a.valueType.name), ("storage", a.storage.document)]

def Aspect.document (a : Aspect) : Document :=
  .record [("id", .text a.id), ("name", .text a.name), ("table", .text a.table),
    ("attributes", .list (a.attributes.map Attribute.document))]

def Schema.document (s : Schema) : Document :=
  .record [("len", .integer s.aspects.length), ("empty", .boolean s.aspects.isEmpty),
    ("aspects", .list (s.aspects.map Aspect.document)), ("naming", s.naming.document)]

end AspectQuery

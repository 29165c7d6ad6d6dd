import AspectQuery.Proofs.Schema.Proper
/-!
# Attributes in the order of their declaration

A schema puts its aspects in the order of their ids. The attributes of an aspect stay in the order
in which they are declared.
-/

set_option autoImplicit false

namespace AspectQuery

/-- The attributes of an aspect as they are declared. -/
def SchemaDefinition.paths (d : SchemaDefinition) (id : AspectId) : List AttributePath :=
  match d.aspects.find? fun e => e.id == id with
  | some e => e.attributes.map fun x => ⟨id, x.name⟩
  | none => []

namespace Schema

theorem paths_of_aspect? {d : SchemaDefinition} {naming : Naming} {s : Schema}
    (h : ofDefinition d naming = .ok s) {id : AspectId} {a : Aspect} (ha : s.aspect? id = some a) :
    d.paths id = a.attributes.map Attribute.path := by
  obtain ⟨hmem, rfl⟩ := aspect?_eq_some ha
  obtain ⟨e, he, rfl⟩ := List.mem_map.mp ((perm_aspects h).mem_iff.mp hmem)
  have hfind : (d.aspects.find? fun f => f.id == (e.defined naming).id) = some e :=
    find?_of_nodup_map (ofDefinition_eq_ok.mp h).1.nodup he
  rw [SchemaDefinition.paths, hfind, AspectDefinition.defined, List.map_map]
  rfl

end Schema

end AspectQuery

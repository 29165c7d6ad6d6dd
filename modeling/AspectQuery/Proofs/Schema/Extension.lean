import AspectQuery.Proofs.Schema.Acceptance
/-!
# Definitions that are extended

Further aspects and further attributes of aspects may come to a definition, and the order of its
aspects may change. What a schema says of an attribute, or of the main table of an aspect, it says
from then on.
-/

set_option autoImplicit false

namespace AspectQuery

/-- Attributes are inserted anywhere among those of the aspect. -/
structure AspectDefinition.ExtendedTo (e f : AspectDefinition) : Prop where
  id : f.id = e.id
  name : f.name = e.name
  table : f.table = e.table
  attributes : e.attributes.Sublist f.attributes

namespace SchemaDefinition

/-- The aspects come in any order, with others among them. -/
def ExtendedTo (d d' : SchemaDefinition) : Prop :=
  ∃ extended further, List.Forall₂ AspectDefinition.ExtendedTo d.aspects extended ∧
    d'.aspects.Perm (extended ++ further)

def aspect? (d : SchemaDefinition) (id : AspectId) : Option AspectDefinition :=
  d.aspects.find? fun e => e.id == id

variable {d d' : SchemaDefinition}

theorem ExtendedTo.exists_of_mem (h : d.ExtendedTo d') {e : AspectDefinition}
    (he : e ∈ d.aspects) : ∃ f ∈ d'.aspects, e.ExtendedTo f := by
  obtain ⟨extended, further, hextended, hperm⟩ := h
  obtain ⟨i, hi, rfl⟩ := List.mem_iff_getElem.mp he
  have hi' : i < extended.length := hextended.length_eq ▸ hi
  refine ⟨extended[i], hperm.mem_iff.mpr ?_, List.Forall₂.get hextended hi hi'⟩
  exact List.mem_append_left _ (List.getElem_mem hi')

end SchemaDefinition

namespace Schema

/-- Nothing is looked up in vain that was found before. -/
structure ExtendedTo (s t : Schema) : Prop where
  naming : t.naming = s.naming
  require : ∀ id a, s.require id = .ok a → ∃ b, t.require id = .ok b ∧ b.table = a.table
  find : ∀ path, KeptBy (s.find path) (t.find path)

variable {d d' : SchemaDefinition} {n : Naming} {s t : Schema}

/-- The aspects of a schema are looked up in its definition. -/
theorem aspect?_eq_map (h : ofDefinition d n = .ok s) (id : AspectId) :
    s.aspect? id = (d.aspect? id).map (AspectDefinition.defined n) := by
  refine Option.ext fun a => ?_
  rw [aspect?_eq_some_iff h, Option.map_eq_some_iff]
  simp only [SchemaDefinition.aspect?, find?_eq_some_iff (ofDefinition_eq_ok.mp h).1.nodup,
    and_assoc]

theorem attributes_aspect? (h : ofDefinition d n = .ok s) (id : AspectId) :
    (s.aspect? id).map Aspect.attributes =
      ((d.aspect? id).map AspectDefinition.attributes).map
        (List.map (AttributeDefinition.defined n id)) := by
  rw [aspect?_eq_map h, Option.map_map, Option.map_map]
  refine Option.map_congr fun e he => ?_
  have hid : e.id = id := by simpa using List.find?_some he
  rw [← hid]
  rfl

theorem extendedTo_of_ofDefinition (hd : d.ExtendedTo d') (hs : ofDefinition d n = .ok s)
    (ht : ofDefinition d' n = .ok t) : s.ExtendedTo t := by
  refine ⟨?_, fun id a ha => ?_, fun path x hx => ?_⟩
  · rw [(follows_of_ofDefinition hs).naming, (follows_of_ofDefinition ht).naming]
  · obtain ⟨e, he, hid, rfl⟩ := (aspect?_eq_some_iff hs).mp (require_eq_ok.mp ha)
    obtain ⟨f, hf, hext⟩ := hd.exists_of_mem he
    refine ⟨f.defined n, ?_, ?_⟩
    · exact require_eq_ok.mpr ((aspect?_eq_some_iff ht).mpr ⟨f, hf, hext.id.trans hid, rfl⟩)
    · rw [AspectDefinition.defined, AspectDefinition.defined, hext.table, hext.id]
  · obtain ⟨e, he, hid, y, hy, hname, rfl⟩ := (find_eq_ok_iff hs).mp hx
    obtain ⟨f, hf, hext⟩ := hd.exists_of_mem he
    exact (find_eq_ok_iff ht).mpr
      ⟨f, hf, hext.id.trans hid, y, hext.attributes.subset hy, hname, by rw [hext.id]⟩

namespace ExtendedTo

variable (h : s.ExtendedTo t)

include h

/-- Of an aspect nothing is used but its table. -/
theorem require_bind {α : Type} {f g : Aspect → Except QueryError α} {id : AspectId}
    (hfg : ∀ a b, b.table = a.table → KeptBy (f a) (g b)) :
    KeptBy (s.require id >>= f) (t.require id >>= g) := by
  intro r hr
  obtain ⟨a, ha, hr⟩ := bind_eq_ok.mp hr
  obtain ⟨b, hb, htable⟩ := h.require id a ha
  exact bind_eq_ok.mpr ⟨b, hb, hfg a b htable r hr⟩

end ExtendedTo

end Schema

end AspectQuery

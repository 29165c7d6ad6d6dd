import AspectQuery.Error
import AspectQuery.Proofs.Outcome
import AspectQuery.Schema.Resolution
/-!
# Schemas that come from definitions

All names that statements use are identifiers, an aspect is known by its id, and an attribute by its
path.
-/

set_option autoImplicit false

namespace AspectQuery

open Sql (isIdentifier)

theorem find?_of_nodup_map {α κ : Type} [DecidableEq κ] {key : α → κ} {xs : List α}
    (h : (xs.map key).Nodup) {x : α} (hx : x ∈ xs) :
    (xs.find? fun y => key y == key x) = some x := by
  induction xs with
  | nil => simp at hx
  | cons y ys ih =>
    obtain ⟨hy, hys⟩ := List.nodup_cons.mp h
    rcases List.mem_cons.mp hx with rfl | hx
    · simp
    · have hne : key y ≠ key x := fun heq => hy (heq ▸ List.mem_map_of_mem hx)
      rw [List.find?_cons_of_neg (by simpa using hne)]
      exact ih hys hx

namespace Attribute

variable {a : Attribute}

theorem bounded_iff : a.bounded ↔ (∃ column, a.storage = .inline column) ∨
    ∃ foreignKey valueTable, a.storage = .manyToOne foreignKey valueTable := by
  obtain ⟨aspect, name, valueType, storage⟩ := a
  cases storage <;> simp [bounded, cardinality, Storage.cardinality, Cardinality.bounded]

theorem bounded_eq_false_iff : a.bounded = false ↔ (∃ table, a.storage = .oneToMany table) ∨
    ∃ junctionTable valueTable, a.storage = .manyToMany junctionTable valueTable := by
  obtain ⟨aspect, name, valueType, storage⟩ := a
  cases storage <;> simp [bounded, cardinality, Storage.cardinality, Cardinality.bounded]

end Attribute

structure Naming.Plain (n : Naming) : Prop where
  itemTable : isIdentifier n.itemTable
  itemIdColumn : isIdentifier n.itemIdColumn
  valueIdColumn : isIdentifier n.valueIdColumn
  valueColumn : isIdentifier n.valueColumn
  valueOrderColumn : ∀ name ∈ n.valueOrderColumn, isIdentifier name

def Storage.Plain : Storage → Prop
  | .inline column => isIdentifier column
  | .manyToOne foreignKey valueTable => isIdentifier foreignKey ∧ isIdentifier valueTable
  | .oneToMany collectionTable => isIdentifier collectionTable
  | .manyToMany junctionTable valueTable =>
    isIdentifier junctionTable ∧ isIdentifier valueTable

structure Aspect.Proper (a : Aspect) : Prop where
  table : isIdentifier a.table
  aspect : ∀ x ∈ a.attributes, x.aspect = a.id
  storage : ∀ x ∈ a.attributes, x.storage.Plain
  nodup : (a.attributes.map Attribute.name).Nodup

structure Schema.Proper (s : Schema) : Prop where
  naming : s.naming.Plain
  aspects : ∀ a ∈ s.aspects, a.Proper
  nodup : (s.aspects.map Aspect.id).Nodup

theorem checkIdentifier_eq_ok {role name : String} {u : Unit} :
    checkIdentifier role name = .ok u ↔ isIdentifier name := by
  simp [checkIdentifier]

theorem Naming.validate_eq_ok {n : Naming} {u : Unit} : n.validate = .ok u ↔ n.Plain := by
  simp only [validate, bind_eq_ok, checkIdentifier_eq_ok]
  constructor
  · rintro ⟨_, hitem, _, hitemId, _, hvalueId, _, hvalue, horder⟩
    refine ⟨hitem, hitemId, hvalueId, hvalue, fun name hname => ?_⟩
    rw [Option.mem_def.mp hname] at horder
    exact checkIdentifier_eq_ok.mp horder
  · intro h
    refine ⟨(), h.itemTable, (), h.itemIdColumn, (), h.valueIdColumn, (), h.valueColumn, ?_⟩
    cases horder : n.valueOrderColumn with
    | none => rfl
    | some name => exact checkIdentifier_eq_ok.mpr (h.valueOrderColumn name horder)

theorem Storage.check_eq_ok {s : Storage} {u : Unit} : s.check = .ok u ↔ s.Plain := by
  cases s <;> simp [check, checkIdentifier_eq_ok, Plain]

namespace AttributeDefinition

/-- The attribute that is defined for an aspect. -/
def defined (naming : Naming) (aspect : AspectId) (d : AttributeDefinition) : Attribute :=
  ⟨aspect, d.name, d.valueType, d.storage naming aspect⟩

theorem resolve_eq_ok {naming : Naming} {aspect : AspectId} {d : AttributeDefinition}
    {x : Attribute} : d.resolve naming aspect = .ok x ↔
      (d.storage naming aspect).Plain ∧ d.defined naming aspect = x := by
  simp only [resolve, bind_eq_ok, pure_eq_ok, Storage.check_eq_ok]
  exact exists_const Unit

end AttributeDefinition

namespace AspectDefinition

/-- The aspect that is defined. -/
def defined (naming : Naming) (d : AspectDefinition) : Aspect where
  id := d.id
  name := d.name.getD d.id
  table := d.table.getD (naming.aspectTable d.id)
  attributes := d.attributes.map (AttributeDefinition.defined naming d.id)

/-- All names that the aspect uses are identifiers, and no attribute is defined twice. -/
structure WellFormed (naming : Naming) (d : AspectDefinition) : Prop where
  table : isIdentifier (d.table.getD (naming.aspectTable d.id))
  nodup : (d.attributes.map AttributeDefinition.name).Nodup
  storage : ∀ x ∈ d.attributes, (x.storage naming d.id).Plain

/-- Each name has to be new among those before it. -/
theorem resolveAttributes_eq_ok {naming : Naming} {aspect : AspectId} {seen : List String}
    {ds : List AttributeDefinition} {xs : List Attribute} :
    resolveAttributes naming aspect seen ds = .ok xs ↔
      (ds.map AttributeDefinition.name).Nodup ∧ (∀ d ∈ ds, d.name ∉ seen) ∧
        (∀ d ∈ ds, (d.storage naming aspect).Plain) ∧
        ds.map (AttributeDefinition.defined naming aspect) = xs := by
  induction ds generalizing seen xs with
  | nil => simp [resolveAttributes]
  | cons d ds ih =>
    rw [resolveAttributes]
    by_cases hseen : d.name ∈ seen
    · simp [hseen]
    · simp only [hseen, if_false, bind_eq_ok, pure_eq_ok,
        AttributeDefinition.resolve_eq_ok, ih, List.map_cons, List.nodup_cons, List.forall_mem_cons]
      constructor
      · rintro ⟨_, ⟨hplain, rfl⟩, _, ⟨hnodup, hnew, hrest, rfl⟩, rfl⟩
        refine ⟨⟨fun hmem => ?_, hnodup⟩, ⟨not_false, fun e he hmem => ?_⟩, ⟨hplain, hrest⟩, rfl⟩
        · obtain ⟨e, he, hname⟩ := List.mem_map.mp hmem
          exact hnew e he (hname ▸ List.mem_cons_self)
        · exact hnew e he (List.mem_cons_of_mem _ hmem)
      · rintro ⟨⟨hmem, hnodup⟩, ⟨-, hnew⟩, ⟨hplain, hrest⟩, rfl⟩
        refine ⟨_, ⟨hplain, rfl⟩, _, ⟨hnodup, fun e he hname => ?_, hrest, rfl⟩, rfl⟩
        rcases List.mem_cons.mp hname with heq | hname
        · exact hmem (heq ▸ List.mem_map_of_mem he)
        · exact hnew e he hname

theorem resolve_eq_ok {naming : Naming} {d : AspectDefinition} {a : Aspect} :
    d.resolve naming = .ok a ↔ d.WellFormed naming ∧ d.defined naming = a := by
  simp only [resolve, bind_eq_ok, pure_eq_ok, checkIdentifier_eq_ok, resolveAttributes_eq_ok]
  constructor
  · rintro ⟨_, htable, _, ⟨hnodup, -, hstorage, rfl⟩, rfl⟩
    exact ⟨⟨htable, hnodup, hstorage⟩, rfl⟩
  · rintro ⟨h, rfl⟩
    exact ⟨(), h.table, _, ⟨h.nodup, fun _ _ => List.not_mem_nil, h.storage, rfl⟩, rfl⟩

theorem WellFormed.proper {naming : Naming} {d : AspectDefinition} (h : d.WellFormed naming) :
    (d.defined naming).Proper := by
  refine ⟨h.table, fun x hx => ?_, fun x hx => ?_, ?_⟩
  · obtain ⟨e, -, rfl⟩ := List.mem_map.mp hx
    rfl
  · obtain ⟨e, he, rfl⟩ := List.mem_map.mp hx
    exact h.storage e he
  · rw [defined, List.map_map]
    exact h.nodup

end AspectDefinition

/-- The names that all statements use are identifiers, every aspect is well formed, and none is
defined twice. -/
structure SchemaDefinition.WellFormed (n : Naming) (d : SchemaDefinition) : Prop where
  naming : n.Plain
  aspects : ∀ e ∈ d.aspects, e.WellFormed n
  nodup : (d.aspects.map AspectDefinition.id).Nodup

namespace Schema

theorem perm_insertAspect (a : Aspect) (as : List Aspect) :
    (insertAspect a as).Perm (a :: as) := by
  induction as with
  | nil => exact .refl _
  | cons b as ih =>
    rw [insertAspect]
    split
    · exact .refl _
    · exact (ih.cons b).trans (.swap a b as)

/-- Puts aspects in their places by id, one after another. -/
def insertAll (as : List Aspect) (new : List Aspect) : List Aspect :=
  new.foldl (fun as a => insertAspect a as) as

theorem perm_insertAll (as new : List Aspect) : (insertAll as new).Perm (new ++ as) := by
  induction new generalizing as with
  | nil => exact .refl _
  | cons a new ih =>
    exact (ih _).trans (((perm_insertAspect a as).append_left new).trans List.perm_middle)

theorem addAspects_eq_ok {naming : Naming} {as bs : List Aspect} {ds : List AspectDefinition} :
    addAspects naming as ds = .ok bs ↔
      (∀ d ∈ ds, d.WellFormed naming) ∧ (ds.map AspectDefinition.id).Nodup ∧
        (∀ d ∈ ds, d.id ∉ as.map Aspect.id) ∧
        insertAll as (ds.map (AspectDefinition.defined naming)) = bs := by
  induction ds generalizing as with
  | nil => simp [addAspects, insertAll]
  | cons d ds ih =>
    have hmem : ∀ id, id ∈ (insertAspect (d.defined naming) as).map Aspect.id ↔
        id = d.id ∨ id ∈ as.map Aspect.id := fun id => by
      rw [((perm_insertAspect _ as).map Aspect.id).mem_iff, List.map_cons, List.mem_cons]
      rfl
    simp only [addAspects, bind_eq_ok, AspectDefinition.resolve_eq_ok]
    constructor
    · rintro ⟨_, ⟨hd, rfl⟩, h⟩
      split at h
      · simp at h
      · rename_i hnew
        obtain ⟨hds, hnodup, hapart, rfl⟩ := ih.mp h
        have hnew' : d.id ∉ as.map Aspect.id := fun hid => hnew (by
          obtain ⟨b, hb, hid⟩ := List.mem_map.mp hid
          exact List.any_eq_true.mpr ⟨b, hb, by simp [hid, AspectDefinition.defined]⟩)
        refine ⟨List.forall_mem_cons.mpr ⟨hd, hds⟩, List.nodup_cons.mpr ⟨fun hid => ?_, hnodup⟩,
          List.forall_mem_cons.mpr ⟨hnew', fun e he hid => ?_⟩, rfl⟩
        · obtain ⟨e, he, hid⟩ := List.mem_map.mp hid
          exact hapart e he ((hmem _).mpr (.inl hid))
        · exact hapart e he ((hmem _).mpr (.inr hid))
    · rintro ⟨hall, hnodup, hapart, rfl⟩
      obtain ⟨hd, hds⟩ := List.forall_mem_cons.mp hall
      obtain ⟨hid, hnodup⟩ := List.nodup_cons.mp hnodup
      obtain ⟨hnew, hapart⟩ := List.forall_mem_cons.mp hapart
      refine ⟨_, ⟨hd, rfl⟩, ?_⟩
      have hany : (as.any fun b => b.id == (d.defined naming).id) = false := by
        rw [List.any_eq_false]
        intro b hb heq
        exact hnew (List.mem_map.mpr ⟨b, hb, beq_iff_eq.mp heq⟩)
      rw [hany]
      refine ih.mpr ⟨hds, hnodup, fun e he heq => ?_, rfl⟩
      rcases (hmem _).mp heq with heq | heq
      · exact hid (heq ▸ List.mem_map_of_mem he)
      · exact hapart e he heq

theorem ofDefinition_eq_ok {d : SchemaDefinition} {naming : Naming} {s : Schema} :
    ofDefinition d naming = .ok s ↔ d.WellFormed naming ∧
      ⟨insertAll [] (d.aspects.map (AspectDefinition.defined naming)), naming⟩ = s := by
  simp only [ofDefinition, bind_eq_ok, pure_eq_ok, Naming.validate_eq_ok, addAspects_eq_ok]
  constructor
  · rintro ⟨_, hnaming, _, ⟨haspects, hnodup, -, rfl⟩, rfl⟩
    exact ⟨⟨hnaming, haspects, hnodup⟩, rfl⟩
  · rintro ⟨h, rfl⟩
    exact ⟨(), h.naming, _, ⟨h.aspects, h.nodup, fun _ _ => List.not_mem_nil, rfl⟩, rfl⟩

/-- The aspects of a schema are those that are defined, in some order. -/
theorem perm_aspects {d : SchemaDefinition} {naming : Naming} {s : Schema}
    (h : ofDefinition d naming = .ok s) :
    s.aspects.Perm (d.aspects.map (AspectDefinition.defined naming)) := by
  obtain ⟨-, rfl⟩ := ofDefinition_eq_ok.mp h
  exact (perm_insertAll _ _).trans (by rw [List.append_nil])

theorem proper_of_ofDefinition {d : SchemaDefinition} {naming : Naming} {s : Schema}
    (h : ofDefinition d naming = .ok s) : s.Proper := by
  have hperm := perm_aspects h
  obtain ⟨hd, rfl⟩ := ofDefinition_eq_ok.mp h
  refine ⟨hd.naming, fun a ha => ?_, ?_⟩
  · obtain ⟨e, he, rfl⟩ := List.mem_map.mp (hperm.mem_iff.mp ha)
    exact (hd.aspects e he).proper
  · rw [(hperm.map Aspect.id).nodup_iff, List.map_map]
    exact hd.nodup

variable {s : Schema}

theorem aspect?_eq_some {id : AspectId} {a : Aspect} (h : s.aspect? id = some a) :
    a ∈ s.aspects ∧ a.id = id :=
  ⟨List.mem_of_find?_eq_some h, by simpa using List.find?_some h⟩

theorem require_eq_ok {id : AspectId} {a : Aspect} :
    s.require id = .ok a ↔ s.aspect? id = some a := by
  rw [require, mapError_eq_ok, requireAspect]
  cases s.aspect? id <;> simp

theorem find_eq_ok {path : AttributePath} {target : Attribute} :
    s.find path = .ok target ↔ s.lookup path = .ok target := by
  simp [find]

theorem aspect?_id (hs : s.Proper) {a : Aspect} (ha : a ∈ s.aspects) :
    s.aspect? a.id = some a :=
  find?_of_nodup_map hs.nodup ha

theorem aspect?_of_lookup {path : AttributePath} {x : Attribute} (h : s.lookup path = .ok x) :
    ∃ a, s.aspect? path.aspect = some a := by
  unfold lookup at h
  split at h
  · simp at h
  · exact ⟨_, ‹_›⟩

theorem lookup_eq_ok {path : AttributePath} {x : Attribute} (h : s.lookup path = .ok x) :
    ∃ a ∈ s.aspects, a.id = path.aspect ∧ x ∈ a.attributes ∧ x.name = path.name := by
  unfold lookup at h
  split at h
  · simp at h
  · rename_i a ha
    split at h
    · rename_i y hy
      obtain rfl := Except.ok.inj h
      obtain ⟨hmem, hid⟩ := aspect?_eq_some ha
      exact ⟨a, hmem, hid, List.mem_of_find?_eq_some hy, by simpa using List.find?_some hy⟩
    · simp at h

theorem path_of_lookup (hs : s.Proper) {path : AttributePath} {x : Attribute}
    (h : s.lookup path = .ok x) : x.path = path := by
  obtain ⟨a, ha, hid, hx, hname⟩ := lookup_eq_ok h
  rw [Attribute.path, (hs.aspects a ha).aspect x hx, hid, hname]

theorem lookup_path (hs : s.Proper) {a : Aspect} (ha : a ∈ s.aspects) {x : Attribute}
    (hx : x ∈ a.attributes) : s.lookup x.path = .ok x := by
  have hfind : a.attribute? x.name = some x := find?_of_nodup_map (hs.aspects a ha).nodup hx
  have haspect : s.aspect? x.aspect = some a :=
    (hs.aspects a ha).aspect x hx ▸ aspect?_id hs ha
  simp only [lookup, Attribute.path, haspect, hfind]

theorem lookup_path_of_lookup (hs : s.Proper) {path : AttributePath} {x : Attribute}
    (h : s.lookup path = .ok x) : s.lookup x.path = .ok x :=
  (path_of_lookup hs h).symm ▸ h

theorem plain_of_lookup (hs : s.Proper) {path : AttributePath} {x : Attribute}
    (h : s.lookup path = .ok x) : x.storage.Plain := by
  obtain ⟨a, ha, -, hx, -⟩ := lookup_eq_ok h
  exact (hs.aspects a ha).storage x hx

end Schema

end AspectQuery

import AspectQuery.Proofs.Schema.Declared
import AspectQuery.Proofs.Text.Ascii
import Mathlib.Data.List.Forall2
/-!
# Accepted definitions

A definition is accepted if and only if all names that statements use are plain identifiers and
nothing is defined twice. The schema then says of every aspect and of every attribute what is
defined, and whatever else is looked up is unknown.
-/

set_option autoImplicit false

namespace AspectQuery

namespace Sql

def Letter (c : Char) : Prop := 'A' ≤ c ∧ c ≤ 'Z' ∨ 'a' ≤ c ∧ c ≤ 'z'

def Digit (c : Char) : Prop := '0' ≤ c ∧ c ≤ '9'

/-- A letter or an underscore, followed by letters, digits and underscores. -/
def Plain (s : String) : Prop :=
  ∃ c cs, s.toList = c :: cs ∧ (Letter c ∨ c = '_') ∧ ∀ d ∈ cs, Letter d ∨ Digit d ∨ d = '_'

theorem isAlpha_iff {c : Char} : c.isAlpha ↔ Letter c := by
  rw [Ascii.isAlpha_iff, Ascii.isUpper_iff_le, Ascii.isLower_iff_le, Letter]

theorem isDigit_iff {c : Char} : c.isDigit ↔ Digit c := by
  simp [Char.isDigit, Digit, Char.le_def]

theorem isIdentifier_iff_plain {s : String} : isIdentifier s ↔ Plain s := by
  unfold isIdentifier Plain
  cases s.toList with
  | nil => simp [isIdentifierChars]
  | cons c cs =>
    have hstart : isIdentifierStart c ↔ Letter c ∨ c = '_' := by
      simp [isIdentifierStart, isAlpha_iff]
    have hchar : ∀ d, isIdentifierChar d ↔ Letter d ∨ Digit d ∨ d = '_' := fun d => by
      simp [isIdentifierChar, Char.isAlphanum, isAlpha_iff, isDigit_iff, or_assoc]
    simp only [isIdentifierChars, Bool.and_eq_true, List.all_eq_true, hstart, hchar]
    constructor
    · intro h
      exact ⟨c, cs, rfl, h⟩
    · rintro ⟨_, _, heq, h⟩
      obtain ⟨rfl, rfl⟩ := List.cons.inj heq
      exact h

end Sql

namespace Storage

/-- The column of the main table. -/
def column? : Storage → Option String
  | .inline column => some column
  | .manyToOne foreignKey _ => some foreignKey
  | .oneToMany _ => none
  | .manyToMany _ _ => none

/-- The tables that hold values beside the main table. -/
def tables : Storage → List String
  | .inline _ => []
  | .manyToOne _ valueTable => [valueTable]
  | .oneToMany collectionTable => [collectionTable]
  | .manyToMany junctionTable valueTable => [junctionTable, valueTable]

def names (s : Storage) : List String := s.column?.toList ++ s.tables

theorem plain_iff {s : Storage} : s.Plain ↔ ∀ name ∈ s.names, Sql.isIdentifier name := by
  cases s <;> simp [Plain, names, column?, tables]

theorem eq_of_names {s t : Storage} (hcardinality : s.cardinality = t.cardinality)
    (hnames : s.names = t.names) : s = t := by
  cases s <;> cases t <;> simp_all [cardinality, names, column?, tables]

end Storage

namespace AttributeDefinition

/-- The names of the columns and tables that the cardinality asks for, as they are given or else as
the naming forms them. -/
def physicalNames (n : Naming) (aspect : AspectId) (d : AttributeDefinition) : List String :=
  let column := d.column.getD (Naming.column d.name)
  let valueTable := d.valueTable.getD (n.valueTable aspect d.name)
  match d.cardinality with
  | .inline => [column]
  | .manyToOne => [column, valueTable]
  | .oneToMany => [valueTable]
  | .manyToMany => [d.junctionTable.getD (n.junctionTable aspect d.name), valueTable]

structure Describes (n : Naming) (aspect : AspectId) (d : AttributeDefinition) (x : Attribute) :
    Prop where
  path : x.path = ⟨aspect, d.name⟩
  valueType : x.valueType = d.valueType
  cardinality : x.cardinality = d.cardinality
  names : x.storage.names = d.physicalNames n aspect

variable {n : Naming} {aspect : AspectId} {d : AttributeDefinition} {x : Attribute}

theorem names_storage : (d.storage n aspect).names = d.physicalNames n aspect := by
  unfold storage physicalNames
  cases d.cardinality <;> rfl

theorem cardinality_storage : (d.storage n aspect).cardinality = d.cardinality := by
  unfold storage
  cases d.cardinality <;> rfl

theorem describes_iff : d.Describes n aspect x ↔ d.defined n aspect = x := by
  constructor
  · intro h
    obtain ⟨haspect, hname⟩ := AttributePath.mk.inj h.path
    have hstorage : x.storage = d.storage n aspect :=
      Storage.eq_of_names (h.cardinality.trans cardinality_storage.symm)
        (h.names.trans names_storage.symm)
    rw [defined, ← h.valueType, ← hstorage, ← haspect, ← hname]
  · rintro rfl
    exact ⟨rfl, rfl, cardinality_storage, names_storage⟩

end AttributeDefinition

namespace AspectDefinition

/-- The attributes are described in the order in which they are declared. -/
structure Describes (n : Naming) (d : AspectDefinition) (a : Aspect) : Prop where
  id : a.id = d.id
  name : a.name = d.name.getD d.id
  table : a.table = d.table.getD (n.aspectTable d.id)
  attributes : List.Forall₂ (AttributeDefinition.Describes n d.id) d.attributes a.attributes

variable {n : Naming} {d : AspectDefinition} {a : Aspect}

theorem describes_iff : d.Describes n a ↔ d.defined n = a := by
  have hattributes : List.Forall₂ (AttributeDefinition.Describes n d.id) d.attributes
      a.attributes ↔ d.attributes.map (AttributeDefinition.defined n d.id) = a.attributes := by
    have hdescribes : AttributeDefinition.Describes n d.id = fun x y => x.defined n d.id = y :=
      funext₂ fun _ _ => propext AttributeDefinition.describes_iff
    rw [hdescribes, ← List.forall₂_map_left_iff (R := Eq), List.forall₂_eq_eq_eq]
  constructor
  · rintro ⟨hid, hname, htable, h⟩
    rw [defined, hattributes.mp h, ← hname, ← htable, ← hid]
  · rintro rfl
    exact ⟨rfl, rfl, rfl, hattributes.mpr rfl⟩

end AspectDefinition

/-- What is asked of a definition and of the naming that goes with it. -/
structure SchemaDefinition.Acceptable (n : Naming) (d : SchemaDefinition) : Prop where
  itemTable : Sql.Plain n.itemTable
  itemIdColumn : Sql.Plain n.itemIdColumn
  valueIdColumn : Sql.Plain n.valueIdColumn
  valueColumn : Sql.Plain n.valueColumn
  valueOrderColumn : ∀ name ∈ n.valueOrderColumn, Sql.Plain name
  aspects : (d.aspects.map AspectDefinition.id).Nodup
  attributes : ∀ e ∈ d.aspects, (e.attributes.map AttributeDefinition.name).Nodup
  tables : ∀ e ∈ d.aspects, Sql.Plain (e.table.getD (n.aspectTable e.id))
  names : ∀ e ∈ d.aspects, ∀ x ∈ e.attributes, ∀ name ∈ x.physicalNames n e.id, Sql.Plain name

theorem SchemaDefinition.acceptable_iff {n : Naming} {d : SchemaDefinition} :
    d.Acceptable n ↔ d.WellFormed n := by
  have hplain := @Sql.isIdentifier_iff_plain
  have hstorage : ∀ aspect, ∀ x : AttributeDefinition, (x.storage n aspect).Plain ↔
      ∀ name ∈ x.physicalNames n aspect, Sql.Plain name := fun aspect x => by
    rw [Storage.plain_iff, AttributeDefinition.names_storage]
    exact forall₂_congr fun _ _ => hplain
  constructor
  · intro h
    refine ⟨⟨hplain.mpr h.itemTable, hplain.mpr h.itemIdColumn, hplain.mpr h.valueIdColumn,
      hplain.mpr h.valueColumn, fun name hname => hplain.mpr (h.valueOrderColumn name hname)⟩,
      fun e he => ⟨hplain.mpr (h.tables e he), h.attributes e he, fun x hx => ?_⟩, h.aspects⟩
    exact (hstorage e.id x).mpr (h.names e he x hx)
  · rintro ⟨hnaming, haspects, hnodup⟩
    refine ⟨hplain.mp hnaming.itemTable, hplain.mp hnaming.itemIdColumn,
      hplain.mp hnaming.valueIdColumn, hplain.mp hnaming.valueColumn,
      fun name hname => hplain.mp (hnaming.valueOrderColumn name hname), hnodup,
      fun e he => (haspects e he).nodup, fun e he => hplain.mp (haspects e he).table,
      fun e he x hx => (hstorage e.id x).mp ((haspects e he).storage x hx)⟩

namespace Schema

theorem ascending_insertAspect {a : Aspect} {as : List Aspect}
    (has : (as.map Aspect.id).Pairwise (· < ·)) (ha : a.id ∉ as.map Aspect.id) :
    ((insertAspect a as).map Aspect.id).Pairwise (· < ·) := by
  induction as with
  | nil => exact List.pairwise_singleton _ _
  | cons b as ih =>
    obtain ⟨hb, has'⟩ := List.pairwise_cons.mp has
    rw [insertAspect]
    split
    · rename_i hlt
      refine List.pairwise_cons.mpr ⟨fun id hid => ?_, has⟩
      rcases List.mem_cons.mp hid with rfl | hid
      · exact hlt
      · exact String.lt_trans hlt (hb id hid)
    · rename_i hle
      refine List.pairwise_cons.mpr ⟨fun id hid => ?_, ih has' fun h => ha (.tail _ h)⟩
      rw [((perm_insertAspect a as).map Aspect.id).mem_iff] at hid
      rcases List.mem_cons.mp hid with rfl | hid
      · exact Std.lt_of_le_of_ne hle fun heq => ha (heq ▸ List.mem_cons_self)
      · exact hb id hid

theorem ascending_insertAll {as new : List Aspect}
    (has : (as.map Aspect.id).Pairwise (· < ·)) (hnew : ((new ++ as).map Aspect.id).Nodup) :
    ((insertAll as new).map Aspect.id).Pairwise (· < ·) := by
  induction new generalizing as with
  | nil => exact has
  | cons a new ih =>
    have ha : a.id ∉ as.map Aspect.id := fun h =>
      (List.nodup_cons.mp hnew).1 (by simpa using .inr (List.mem_map.mp h))
    refine ih (ascending_insertAspect has ha) ?_
    rw [(((perm_insertAspect a as).append_left new).map Aspect.id).nodup_iff,
      (List.perm_middle.map Aspect.id).nodup_iff]
    exact hnew

/-- A schema says what is defined, and nothing else. -/
structure Follows (n : Naming) (d : SchemaDefinition) (s : Schema) : Prop where
  naming : s.naming = n
  /-- The aspects stand in the order of their ids. -/
  ascending : (s.aspects.map Aspect.id).Pairwise (· < ·)
  aspects : ∃ as, s.aspects.Perm as ∧ List.Forall₂ (AspectDefinition.Describes n) d.aspects as
  require : ∀ id a, s.require id = .ok a ↔ ∃ e ∈ d.aspects, e.id = id ∧ e.Describes n a
  require_error : ∀ id, s.require id = .error (.lookup (.unknownAspect id)) ↔
    id ∉ d.aspects.map AspectDefinition.id
  find : ∀ path x, s.find path = .ok x ↔ ∃ e ∈ d.aspects, e.id = path.aspect ∧
    ∃ y ∈ e.attributes, y.name = path.name ∧ y.Describes n e.id x
  unknownAspect : ∀ path, s.find path = .error (.lookup (.unknownAspect path.aspect)) ↔
    path.aspect ∉ d.aspects.map AspectDefinition.id
  unknownAttribute : ∀ path, s.find path = .error (.lookup (.unknownAttribute path)) ↔
    ∃ e ∈ d.aspects, e.id = path.aspect ∧ path.name ∉ e.attributes.map AttributeDefinition.name

section

variable {α κ : Type} [DecidableEq κ] {key : α → κ} {xs : List α} {k : κ}

theorem find?_eq_some_iff (h : (xs.map key).Nodup) {x : α} :
    (xs.find? fun y => key y == k) = some x ↔ x ∈ xs ∧ key x = k := by
  constructor
  · intro hx
    exact ⟨List.mem_of_find?_eq_some hx, by simpa using List.find?_some hx⟩
  · rintro ⟨hx, rfl⟩
    exact find?_of_nodup_map h hx

theorem find?_eq_none_iff : (xs.find? fun y => key y == k) = none ↔ k ∉ xs.map key := by
  simp only [List.find?_eq_none, List.mem_map, beq_iff_eq, not_exists, not_and]

end

variable {n : Naming} {d : SchemaDefinition} {s : Schema}

theorem aspect?_eq_some_iff (h : ofDefinition d n = .ok s) {id : AspectId} {a : Aspect} :
    s.aspect? id = some a ↔ ∃ e ∈ d.aspects, e.id = id ∧ e.defined n = a := by
  rw [aspect?, find?_eq_some_iff (proper_of_ofDefinition h).nodup, (perm_aspects h).mem_iff,
    List.mem_map]
  constructor
  · rintro ⟨⟨e, he, rfl⟩, rfl⟩
    exact ⟨e, he, rfl, rfl⟩
  · rintro ⟨e, he, rfl, rfl⟩
    exact ⟨⟨e, he, rfl⟩, rfl⟩

theorem aspect?_eq_none_iff (h : ofDefinition d n = .ok s) {id : AspectId} :
    s.aspect? id = none ↔ id ∉ d.aspects.map AspectDefinition.id := by
  rw [aspect?, find?_eq_none_iff, ((perm_aspects h).map Aspect.id).mem_iff, List.map_map]
  rfl

theorem attribute?_defined_eq_some {e : AspectDefinition} (he : e.WellFormed n) {name : String}
    {x : Attribute} : (e.defined n).attribute? name = some x ↔
      ∃ y ∈ e.attributes, y.name = name ∧ y.defined n e.id = x := by
  rw [Aspect.attribute?, find?_eq_some_iff he.proper.nodup, AspectDefinition.defined, List.mem_map]
  constructor
  · rintro ⟨⟨y, hy, rfl⟩, rfl⟩
    exact ⟨y, hy, rfl, rfl⟩
  · rintro ⟨y, hy, rfl, rfl⟩
    exact ⟨⟨y, hy, rfl⟩, rfl⟩

theorem attribute?_defined_eq_none {e : AspectDefinition} {name : String} :
    (e.defined n).attribute? name = none ↔ name ∉ e.attributes.map AttributeDefinition.name := by
  rw [Aspect.attribute?, find?_eq_none_iff, AspectDefinition.defined, List.map_map]
  rfl

theorem require_eq_error {id : AspectId} :
    s.require id = .error (.lookup (.unknownAspect id)) ↔ s.aspect? id = none := by
  unfold require requireAspect
  cases s.aspect? id <;> simp [Except.mapError]

/-- A path leads to an attribute of the aspect with its id. -/
theorem find_of_mem (h : ofDefinition d n = .ok s) {path : AttributePath} {e : AspectDefinition}
    (he : e ∈ d.aspects) (hid : e.id = path.aspect) :
    s.find path = match (e.defined n).attribute? path.name with
      | some x => .ok x
      | none => .error (.lookup (.unknownAttribute path)) := by
  rw [find, lookup, (aspect?_eq_some_iff h).mpr ⟨e, he, hid, rfl⟩]
  cases hx : (e.defined n).attribute? path.name <;> simp [hx, Except.mapError]

theorem find_of_notMem (h : ofDefinition d n = .ok s) {path : AttributePath}
    (hid : path.aspect ∉ d.aspects.map AspectDefinition.id) :
    s.find path = .error (.lookup (.unknownAspect path.aspect)) := by
  rw [find, lookup, (aspect?_eq_none_iff h).mpr hid]
  rfl

theorem find_eq_ok_iff (h : ofDefinition d n = .ok s) {path : AttributePath} {x : Attribute} :
    s.find path = .ok x ↔ ∃ e ∈ d.aspects, e.id = path.aspect ∧
      ∃ y ∈ e.attributes, y.name = path.name ∧ y.defined n e.id = x := by
  have hd := (ofDefinition_eq_ok.mp h).1
  constructor
  · intro hx
    by_cases hid : path.aspect ∈ d.aspects.map AspectDefinition.id
    · obtain ⟨e, he, hid⟩ := List.mem_map.mp hid
      rw [find_of_mem h he hid] at hx
      split at hx
      · rename_i hy
        obtain rfl := Except.ok.inj hx
        exact ⟨e, he, hid, (attribute?_defined_eq_some (hd.aspects e he)).mp hy⟩
      · cases hx
    · rw [find_of_notMem h hid] at hx
      cases hx
  · rintro ⟨e, he, hid, hx⟩
    rw [find_of_mem h he hid, (attribute?_defined_eq_some (hd.aspects e he)).mpr hx]

theorem find_eq_unknownAspect (h : ofDefinition d n = .ok s) {path : AttributePath} :
    s.find path = .error (.lookup (.unknownAspect path.aspect)) ↔
      path.aspect ∉ d.aspects.map AspectDefinition.id := by
  constructor
  · intro hx hid
    obtain ⟨e, he, hid⟩ := List.mem_map.mp hid
    rw [find_of_mem h he hid] at hx
    split at hx <;> simp at hx
  · exact find_of_notMem h

theorem find_eq_unknownAttribute (h : ofDefinition d n = .ok s) {path : AttributePath} :
    s.find path = .error (.lookup (.unknownAttribute path)) ↔
      ∃ e ∈ d.aspects, e.id = path.aspect ∧
        path.name ∉ e.attributes.map AttributeDefinition.name := by
  constructor
  · intro hx
    by_cases hid : path.aspect ∈ d.aspects.map AspectDefinition.id
    · obtain ⟨e, he, hid⟩ := List.mem_map.mp hid
      refine ⟨e, he, hid, (attribute?_defined_eq_none (n := n)).mp ?_⟩
      rw [find_of_mem h he hid] at hx
      cases hy : (e.defined n).attribute? path.name with
      | none => rfl
      | some y => simp [hy] at hx
    · rw [find_of_notMem h hid] at hx
      simp at hx
  · rintro ⟨e, he, hid, hname⟩
    rw [find_of_mem h he hid, attribute?_defined_eq_none.mpr hname]

theorem follows_of_ofDefinition (h : ofDefinition d n = .ok s) : s.Follows n d := by
  obtain ⟨hd, hs⟩ := ofDefinition_eq_ok.mp h
  refine ⟨hs ▸ rfl, ?_, ⟨_, perm_aspects h, ?_⟩, fun id a => ?_, fun id => ?_, fun path x => ?_,
    fun path => find_eq_unknownAspect h, fun path => find_eq_unknownAttribute h⟩
  · rw [← hs]
    refine ascending_insertAll .nil ?_
    rw [List.append_nil, List.map_map]
    exact hd.nodup
  · exact List.forall₂_map_right_iff.mpr
      (List.forall₂_same.mpr fun e _ => AspectDefinition.describes_iff.mpr rfl)
  · simp only [require_eq_ok, aspect?_eq_some_iff h, AspectDefinition.describes_iff]
  · rw [require_eq_error, aspect?_eq_none_iff h]
  · simp only [find_eq_ok_iff h, AttributeDefinition.describes_iff]

theorem Follows.eq {t : Schema} (hs : s.Follows n d) (ht : t.Follows n d) : s = t := by
  obtain ⟨as, hsas, hdescribes⟩ := hs.aspects
  obtain ⟨bs, htbs, hdescribes'⟩ := ht.aspects
  have has : ∀ {cs : List Aspect}, List.Forall₂ (AspectDefinition.Describes n) d.aspects cs →
      d.aspects.map (AspectDefinition.defined n) = cs := fun h =>
    List.forall₂_eq_eq_eq ▸ List.forall₂_map_left_iff.mpr
      (h.imp fun _ _ => AspectDefinition.describes_iff.mp)
  obtain rfl := (has hdescribes).symm.trans (has hdescribes')
  -- The aspects are the same up to their order, and both are in ascending order.
  have hascending : ∀ {u : Schema}, u.Follows n d → u.aspects.Pairwise fun a b => a.id < b.id :=
    fun hu => List.pairwise_map.mp hu.ascending
  have haspects : s.aspects = t.aspects :=
    (hsas.trans htbs.symm).eq_of_pairwise
      (fun _ _ _ _ h h' => absurd (String.lt_trans h h') (String.lt_irrefl _))
      (hascending hs) (hascending ht)
  cases s
  cases t
  rw [mk.injEq]
  exact ⟨haspects, hs.naming.trans ht.naming.symm⟩

/-- A schema comes from a definition if and only if the definition is acceptable and the schema
says what it defines. -/
theorem accepted_definitions (d : SchemaDefinition) (n : Naming) :
    ((∃ s, ofDefinition d n = .ok s) ↔ d.Acceptable n) ∧
      ∀ s, ofDefinition d n = .ok s ↔ d.Acceptable n ∧ s.Follows n d := by
  have hex : (∃ s, ofDefinition d n = .ok s) ↔ d.Acceptable n := by
    simp only [ofDefinition_eq_ok, SchemaDefinition.acceptable_iff, exists_and_left,
      exists_eq', and_true]
  refine ⟨hex, fun s => ⟨fun h => ⟨hex.mp ⟨s, h⟩, follows_of_ofDefinition h⟩, ?_⟩⟩
  rintro ⟨hd, hs⟩
  obtain ⟨t, ht⟩ := hex.mpr hd
  rw [ht, hs.eq (follows_of_ofDefinition ht)]

end Schema

end AspectQuery

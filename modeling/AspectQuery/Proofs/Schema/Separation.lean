import AspectQuery.Proofs.Schema.Acceptance
import Mathlib.Data.List.Nodup
import Mathlib.Tactic.MkIffOfInductiveProp
/-!
# Names that coincide

A derived name keeps letters and digits, but not the case of the letters nor which other characters
there are. An accepted definition without names of its own keeps all attributes apart if and only if
no two of its names are alike in this sense; duplicates are looked for among the names themselves.
-/

set_option autoImplicit false

namespace AspectQuery

namespace Naming

/-- The same letter in any case, the same digit, or two other characters. -/
def AlikeChar (c d : Char) : Prop :=
  c.toUpper = d.toUpper ∨ c.isAlphanum = false ∧ d.isAlphanum = false

def Alike (s t : String) : Prop := List.Forall₂ AlikeChar s.toList t.toList

variable {c d : Char} {s t : String}

theorem isAlphanum_toUpper (h : c.isAlphanum) : c.toUpper.isAlphanum := by
  cases hc : c.isLower with
  | false => rwa [Ascii.toUpper_eq_self hc]
  | true =>
    have hletter : c.toUpper.isAlpha := Ascii.isAlpha_iff.mpr (.inl (Ascii.isUpper_toUpper hc))
    exact Bool.or_eq_true_iff.mpr (.inl hletter)

theorem toUpper_of_not_isAlphanum (h : c.isAlphanum = false) : c.toUpper = c := by
  have hletter : c.isAlpha = false := (Bool.or_eq_false_iff.mp h).1
  exact Ascii.toUpper_eq_self (Bool.or_eq_false_iff.mp hletter).2

theorem toUpper_ne (hc : c.isAlphanum) (hd : d.isAlphanum = false) : c.toUpper ≠ d := by
  rintro rfl
  rw [isAlphanum_toUpper hc] at hd
  cases hd

theorem physicalChar_eq_iff : physicalChar c = physicalChar d ↔ AlikeChar c d := by
  have hunderscore : '_'.isAlphanum = false := by decide
  unfold physicalChar AlikeChar
  cases hc : c.isAlphanum <;> cases hd : d.isAlphanum
  · simp
  · have hne := (toUpper_ne hd hc).symm
    simpa [toUpper_of_not_isAlphanum hc, hne] using (toUpper_ne hd hunderscore).symm
  · have hne := toUpper_ne hc hd
    simpa [toUpper_of_not_isAlphanum hd, hne] using toUpper_ne hc hunderscore
  · simp

theorem physical_eq_iff : physical s = physical t ↔ Alike s t := by
  simp only [physical, String.ofList_inj, Alike]
  rw [← List.forall₂_eq_eq_eq, List.forall₂_map_left_iff, List.forall₂_map_right_iff]
  simp only [physicalChar_eq_iff]

/-- The id of an aspect and the name of an attribute in one. -/
def joined (aspect attr : String) : String := aspect ++ "_" ++ attr

theorem physical_joined {aspect attr : String} :
    physical (joined aspect attr) = physical aspect ++ "_" ++ physical attr := by
  have hunderscore : physicalChar '_' = '_' := by decide
  simp [physical, joined, hunderscore, String.ofList_append, String.append_assoc]

/-- Where ids have nothing but letters and digits, they end at the first underscore. -/
theorem alike_joined_iff {a b x y : String} (ha : ∀ c ∈ a.toList, c.isAlphanum)
    (hb : ∀ c ∈ b.toList, c.isAlphanum) :
    Alike (joined a x) (joined b y) ↔ Alike a b ∧ Alike x y := by
  have hjoined : ∀ a x : String, (joined a x).toList = a.toList ++ '_' :: x.toList := fun a x => by
    simp [joined]
  simp only [Alike, hjoined]
  generalize a.toList = as at ha ⊢
  generalize b.toList = bs at hb ⊢
  have hother : ∀ c : Char, c.isAlphanum → ¬ AlikeChar '_' c ∧ ¬ AlikeChar c '_' := fun c hc => by
    have hne : c.toUpper ≠ '_' := toUpper_ne hc rfl
    exact ⟨by simpa [AlikeChar, hc] using hne.symm, by simpa [AlikeChar, hc] using hne⟩
  -- Neither id goes on where the other one ends, for there the other name has its underscore.
  induction as generalizing bs with
  | nil =>
    cases bs with
    | nil => simp [AlikeChar]
    | cons c bs => simp [(hother c (hb c List.mem_cons_self)).1]
  | cons c as ih =>
    cases bs with
    | nil => simp [(hother c (ha c List.mem_cons_self)).2]
    | cons c' bs =>
      simp only [List.cons_append, List.forall₂_cons, and_assoc]
      exact and_congr_right fun _ => ih (fun c hc => ha c (.tail _ hc)) bs
        fun c hc => hb c (.tail _ hc)

end Naming

namespace AttributeDefinition

/-- No table and no column has a name of its own. -/
@[mk_iff]
structure Derived (x : AttributeDefinition) : Prop where
  column : x.column = none
  valueTable : x.valueTable = none
  junctionTable : x.junctionTable = none

end AttributeDefinition

@[mk_iff]
structure AspectDefinition.Derived (e : AspectDefinition) : Prop where
  table : e.table = none
  attributes : ∀ x ∈ e.attributes, x.Derived

def SchemaDefinition.Derived (d : SchemaDefinition) : Prop := ∀ e ∈ d.aspects, e.Derived

namespace Attribute

/-- The values are in one column, if they are in the same main table. -/
def SharesColumn (x y : Attribute) : Prop := ∃ c ∈ x.storage.column?, c ∈ y.storage.column?

/-- The values, or what says to which items they belong, are in one table. -/
def SharesTable (x y : Attribute) : Prop := ∃ t ∈ x.storage.tables, t ∈ y.storage.tables

instance (x y : Attribute) : Decidable (x.SharesColumn y) :=
  inferInstanceAs (Decidable (∃ c ∈ x.storage.column?, c ∈ y.storage.column?))

instance (x y : Attribute) : Decidable (x.SharesTable y) :=
  inferInstanceAs (Decidable (∃ t ∈ x.storage.tables, t ∈ y.storage.tables))

end Attribute

namespace Schema

def MainTablesDiffer (s : Schema) : Prop :=
  ∀ a ∈ s.aspects, ∀ b ∈ s.aspects, a.table = b.table → a = b

def ColumnsDiffer (s : Schema) : Prop :=
  ∀ a ∈ s.aspects, ∀ x ∈ a.attributes, ∀ y ∈ a.attributes, x.SharesColumn y → x = y

def TablesDiffer (s : Schema) : Prop :=
  ∀ a ∈ s.aspects, ∀ b ∈ s.aspects, ∀ x ∈ a.attributes, ∀ y ∈ b.attributes,
    x.SharesTable y → x = y

end Schema

open Naming (Alike joined)

namespace SchemaDefinition

def IdsUnlike (d : SchemaDefinition) : Prop :=
  ∀ e ∈ d.aspects, ∀ f ∈ d.aspects, Alike e.id f.id → e.id = f.id

def NamesUnlike (d : SchemaDefinition) : Prop :=
  ∀ e ∈ d.aspects, ∀ x ∈ e.attributes, ∀ y ∈ e.attributes,
    x.cardinality.bounded ∧ y.cardinality.bounded ∧ Alike x.name y.name → x.name = y.name

/-- The boundary between an id and a name is not seen where they are joined. -/
def PathsUnlike (d : SchemaDefinition) : Prop :=
  ∀ e ∈ d.aspects, ∀ f ∈ d.aspects, ∀ x ∈ e.attributes, ∀ y ∈ f.attributes,
    x.cardinality ≠ .inline ∧ y.cardinality ≠ .inline ∧
      Alike (joined e.id x.name) (joined f.id y.name) → e.id = f.id ∧ x.name = y.name

end SchemaDefinition

namespace AttributeDefinition

variable {x y : AttributeDefinition} {a b : AspectId}

theorem sharesColumn_iff (hx : x.Derived) (hy : y.Derived) :
    (x.defined {} a).SharesColumn (y.defined {} b) ↔
      x.cardinality.bounded ∧ y.cardinality.bounded ∧ Alike x.name y.name := by
  have hcolumn : ∀ {x : AttributeDefinition} {a : AspectId}, x.Derived →
      (x.defined {} a).storage.column? =
        if x.cardinality.bounded then some (Naming.physical x.name) else none := fun {x a} hx => by
    unfold defined storage
    rw [hx.column]
    cases x.cardinality <;> rfl
  rw [Attribute.SharesColumn, hcolumn hx, hcolumn hy, ← Naming.physical_eq_iff]
  cases x.cardinality.bounded <;> cases y.cardinality.bounded <;> simp [eq_comm]

theorem mem_tables_defined (hx : x.Derived) {t : String} :
    t ∈ (x.defined {} a).storage.tables ↔
      (x.cardinality ≠ .inline ∧ t = "V_" ++ Naming.physical (joined a x.name)) ∨
        x.cardinality = .manyToMany ∧ t = "NM_" ++ Naming.physical (joined a x.name) := by
  unfold defined storage
  rw [hx.valueTable, hx.junctionTable, Naming.physical_joined]
  cases x.cardinality <;>
    simp [Storage.tables, Naming.valueTable, Naming.junctionTable, String.append_assoc, or_comm]

theorem sharesTable_iff (hx : x.Derived) (hy : y.Derived) :
    (x.defined {} a).SharesTable (y.defined {} b) ↔ x.cardinality ≠ .inline ∧
      y.cardinality ≠ .inline ∧ Alike (joined a x.name) (joined b y.name) := by
  have hapart : ∀ s t : String, "V_" ++ s ≠ "NM_" ++ t := fun s t heq => by
    simpa using congrArg String.toList heq
  simp only [Attribute.SharesTable, mem_tables_defined hx, mem_tables_defined hy,
    ← Naming.physical_eq_iff]
  constructor
  · rintro ⟨t, ⟨hx, rfl⟩ | ⟨hx, rfl⟩, ⟨hy, heq⟩ | ⟨hy, heq⟩⟩
    · exact ⟨hx, hy, String.append_right_inj _ |>.mp heq⟩
    · exact absurd heq (hapart _ _)
    · exact absurd heq.symm (hapart _ _)
    · exact ⟨by simp [hx], by simp [hy], String.append_right_inj _ |>.mp heq⟩
  · rintro ⟨hx, hy, heq⟩
    exact ⟨_, .inl ⟨hx, rfl⟩, .inl ⟨hy, by rw [heq]⟩⟩

end AttributeDefinition

namespace Schema

variable {d : SchemaDefinition} {s : Schema}

theorem forall_mem_aspects (h : ofDefinition d {} = .ok s) {P : Aspect → Prop} :
    (∀ a ∈ s.aspects, P a) ↔ ∀ e ∈ d.aspects, P (e.defined {}) := by
  simp only [(perm_aspects h).mem_iff, List.forall_mem_map]

theorem defined_inj (h : ofDefinition d {} = .ok s) {e f : AspectDefinition}
    (he : e ∈ d.aspects) (hf : f ∈ d.aspects) : e.defined {} = f.defined {} ↔ e.id = f.id := by
  refine ⟨congrArg Aspect.id, fun heq => ?_⟩
  rw [List.inj_on_of_nodup_map (ofDefinition_eq_ok.mp h).1.nodup he hf heq]

theorem attribute_defined_inj (h : ofDefinition d {} = .ok s) {e f : AspectDefinition}
    (he : e ∈ d.aspects) (hf : f ∈ d.aspects) {x y : AttributeDefinition} (hx : x ∈ e.attributes)
    (hy : y ∈ f.attributes) :
    x.defined {} e.id = y.defined {} f.id ↔ e.id = f.id ∧ x.name = y.name := by
  have hd := (ofDefinition_eq_ok.mp h).1
  refine ⟨fun heq => ⟨congrArg Attribute.aspect heq, congrArg Attribute.name heq⟩, ?_⟩
  rintro ⟨hid, hname⟩
  obtain rfl := List.inj_on_of_nodup_map hd.nodup he hf hid
  rw [List.inj_on_of_nodup_map (hd.aspects e he).nodup hx hy hname]

theorem mainTablesDiffer_iff (hd : d.Derived) (h : ofDefinition d {} = .ok s) :
    s.MainTablesDiffer ↔ d.IdsUnlike := by
  have htable : ∀ e ∈ d.aspects, (e.defined {}).table = "M_" ++ Naming.physical e.id :=
    fun e he => by rw [AspectDefinition.defined, (hd e he).table]; rfl
  simp only [MainTablesDiffer, forall_mem_aspects h]
  refine forall₂_congr fun e he => forall₂_congr fun f hf => ?_
  rw [htable e he, htable f hf, String.append_right_inj, Naming.physical_eq_iff,
    defined_inj h he hf]

theorem columnsDiffer_iff (hd : d.Derived) (h : ofDefinition d {} = .ok s) :
    s.ColumnsDiffer ↔ d.NamesUnlike := by
  simp only [ColumnsDiffer, forall_mem_aspects h, AspectDefinition.defined, List.forall_mem_map]
  refine forall₂_congr fun e he => forall₂_congr fun x hx => forall₂_congr fun y hy => ?_
  rw [AttributeDefinition.sharesColumn_iff ((hd e he).attributes x hx) ((hd e he).attributes y hy),
    attribute_defined_inj h he he hx hy, and_iff_right rfl]

theorem tablesDiffer_iff (hd : d.Derived) (h : ofDefinition d {} = .ok s) :
    s.TablesDiffer ↔ d.PathsUnlike := by
  simp only [TablesDiffer, forall_mem_aspects h, AspectDefinition.defined, List.forall_mem_map]
  refine forall₂_congr fun e he => forall₂_congr fun f hf => forall₂_congr fun x hx =>
    forall₂_congr fun y hy => ?_
  rw [AttributeDefinition.sharesTable_iff ((hd e he).attributes x hx) ((hd f hf).attributes y hy),
    attribute_defined_inj h he hf hx hy]

/-- Aspects and attributes are kept apart in so far as their names are. -/
theorem separate_iff_unlike (hd : d.Derived) (h : ofDefinition d {} = .ok s) :
    (s.MainTablesDiffer ↔ d.IdsUnlike) ∧ (s.ColumnsDiffer ↔ d.NamesUnlike) ∧
      (s.TablesDiffer ↔ d.PathsUnlike) :=
  ⟨mainTablesDiffer_iff hd h, columnsDiffer_iff hd h, tablesDiffer_iff hd h⟩

/-- Two names differ in the case of a letter, two ids too, and an underscore is now in the id of the
aspect and now in the name of the attribute. -/
def alikeFilms : SchemaDefinition where
  aspects := [
    { id := "film"
      attributes := [
        { name := "title", cardinality := .inline, valueType := .string },
        { name := "Title", cardinality := .inline, valueType := .string },
        { name := "cast_member", cardinality := .oneToMany, valueType := .string }] },
    { id := "Film" },
    { id := "film_cast"
      attributes := [{ name := "member", cardinality := .manyToOne, valueType := .string }] }]

def alikeSchema : Schema := (ofDefinition alikeFilms {}).toOption.getD {}

theorem derived_alikeFilms : alikeFilms.Derived := by
  simp [SchemaDefinition.Derived, AspectDefinition.derived_iff, AttributeDefinition.derived_iff,
    alikeFilms]

theorem separate_iff_unlike_alikeFilms : alikeFilms.Derived ∧
    ofDefinition alikeFilms {} = .ok alikeSchema ∧
      (alikeSchema.MainTablesDiffer ↔ alikeFilms.IdsUnlike) ∧
      (alikeSchema.ColumnsDiffer ↔ alikeFilms.NamesUnlike) ∧
      (alikeSchema.TablesDiffer ↔ alikeFilms.PathsUnlike) :=
  ⟨derived_alikeFilms, rfl, separate_iff_unlike derived_alikeFilms rfl⟩

/-- All three are accepted, and none is kept apart. -/
theorem accepted_without_separation : alikeFilms.Derived ∧
    ofDefinition alikeFilms {} = .ok alikeSchema ∧ ¬ alikeSchema.MainTablesDiffer ∧
      ¬ alikeSchema.ColumnsDiffer ∧ ¬ alikeSchema.TablesDiffer := by
  refine ⟨derived_alikeFilms, rfl, ?_, ?_, ?_⟩
  · unfold MainTablesDiffer
    decide
  · unfold ColumnsDiffer
    decide
  · unfold TablesDiffer
    decide

/-- With ids of letters and digits it is enough that no two ids and no two names of an aspect are
alike. -/
theorem separate_of_alphanumeric (hd : d.Derived) (h : ofDefinition d {} = .ok s)
    (halphanum : ∀ e ∈ d.aspects, ∀ c ∈ e.id.toList, c.isAlphanum) (hids : d.IdsUnlike)
    (hnames : ∀ e ∈ d.aspects, ∀ x ∈ e.attributes, ∀ y ∈ e.attributes,
      Alike x.name y.name → x.name = y.name) :
    s.MainTablesDiffer ∧ s.ColumnsDiffer ∧ s.TablesDiffer := by
  refine ⟨(mainTablesDiffer_iff hd h).mpr hids, (columnsDiffer_iff hd h).mpr ?_,
    (tablesDiffer_iff hd h).mpr ?_⟩
  · rintro e he x hx y hy ⟨-, -, halike⟩
    exact hnames e he x hx y hy halike
  · rintro e he f hf x hx y hy ⟨-, -, halike⟩
    obtain ⟨hid, hname⟩ := (Naming.alike_joined_iff (halphanum e he) (halphanum f hf)).mp halike
    have heq := hids e he f hf hid
    obtain rfl := List.inj_on_of_nodup_map (ofDefinition_eq_ok.mp h).1.nodup he hf heq
    exact ⟨rfl, hnames e he x hx y hy hname⟩

end Schema

end AspectQuery

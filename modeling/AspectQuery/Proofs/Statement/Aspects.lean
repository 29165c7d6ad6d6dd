import AspectQuery.Proofs.Scope.Plan
import AspectQuery.Statement
/-!
# The aspects of a statement

A statement starts at its base with all rows. Aspects that are joined strictly leave out the rows of
items without them, and aspects that are joined loosely leave out nothing. Each requested aspect has
one table.
-/

set_option autoImplicit false

namespace AspectQuery

open Sql (Contents Operators Record isIdentifier)

/-- The item of a row has the aspect. -/
def present (db : Contents) (schema : Schema) (r : Record) (aspect : AspectId) : Bool :=
  (mainRow? db schema (r schema.naming.itemIdColumn) aspect).isSome

theorem present_congr {db : Contents} {schema : Schema} {r s : Record}
    (h : r schema.naming.itemIdColumn = s schema.naming.itemIdColumn) :
    present db schema r = present db schema s := by
  funext a
  rw [present, present, h]

namespace JoinPlan

section

variable {ops : Operators} {db : Contents} {schema : Schema} {ms : Mentions} {base : String}
  {anchor : ColumnRef} {kept : Record → Bool} {p : JoinPlan}

theorem fits_addBase (ops : Operators) (ms : Mentions) {aliases : Aliases AliasKey}
    (haliases : aliases.Sound) {purpose : Purpose} (hplain : isIdentifier base)
    (hties : base = schema.naming.itemTable ∨ schema.Ties base)
    (hbase : ∀ r ∈ db base, records db schema r purpose = r) :
    let q := ({ aliases } : JoinPlan).addBase purpose base
    q.2.Fits ops db schema ms base ⟨q.1, schema.naming.itemIdColumn⟩ (fun _ => true) ∧
      (∀ i ∈ q.2.tables.instances, i.id = q.1 ∧ i.purpose = purpose) ∧ q.2.Has purpose q.1 ∧
      q.2.columns = [] := by
  have hsound := Tables.sound_add (Tables.sound_empty haliases) purpose base
  rw [Tables.add_eq haliases] at hsound
  rw [addBase_eq haliases]
  refine ⟨⟨hsound, ⟨?_, by simp⟩, ⟨[], rfl⟩, hties, ?_, ⟨_, [], rfl, rfl, rfl, hbase⟩, rfl, ?_⟩,
    ?_, ?_, rfl⟩
  · intro i hi
    rw [List.mem_singleton.mp hi]
    exact hplain
  · intro r _
    exact ⟨[], _, [], rfl, rfl, rfl⟩
  · intro m c _ hc
    simp [JoinPlan.column?] at hc
  · intro i hi
    rw [List.mem_singleton.mp hi]
    exact ⟨rfl, rfl⟩
  · exact ⟨_, List.mem_singleton_self _, rfl, rfl⟩

/-- Only rows are kept whose items have the aspects that there are tables for. -/
def Tight (db : Contents) (schema : Schema) (base : String) (kept : Record → Bool)
    (p : JoinPlan) : Prop :=
  ∀ i ∈ p.tables.instances, ∀ a, i.purpose = .aspect a → ∀ r ∈ db base, kept r →
    present db schema r a

theorem Fits.joinAspect_strictly (h : p.Fits ops db schema ms base anchor kept)
    (ht : p.Tight db schema base kept) (hdb : db.Keyed ops schema) (hs : schema.Proper)
    {id : AspectId}
    {a : Aspect} (ha : schema.aspect? id = some a) :
    ∃ n q, p.joinAspect schema .inner anchor id = .ok (n, q) ∧
      q.Fits ops db schema ms base anchor (fun r => kept r && present db schema r id) ∧
      q.Tight db schema base (fun r => kept r && present db schema r id) ∧
      p.Adds q (.aspect id) n := by
  obtain ⟨n, q, hjoin, hfits, hadds⟩ := h.joinAspect hdb hs .inner ha
  refine ⟨n, q, hjoin, hfits.congr fun r hr => ?_, ?_, hadds⟩
  · cases hfind : p.tables.find? (.aspect id) with
    | none =>
      have hkind : (Sql.JoinKind.inner == .leftOuter) = false := rfl
      simp [present, hkind]
    | some _ =>
      obtain ⟨i, hi, hpurpose, -⟩ := Tables.find?_eq_some hfind
      have hpresent := ht i hi id hpurpose r hr
      cases hkept : kept r with
      | false => simp
      | true => simp [hpresent hkept]
  · intro i hi b hb r hr hkept
    rw [Bool.and_eq_true] at hkept
    rcases hadds.only i hi with hi | hpurpose
    · exact ht i hi b hb r hr hkept.1
    · obtain rfl := Purpose.aspect.inj (hpurpose.symm.trans hb)
      exact hkept.2

/-- Every requested aspect has its table. -/
def Requested (p : JoinPlan) (requested : List (AspectId × Nat)) : Prop :=
  ∀ e ∈ requested, p.Has (.aspect e.1) e.2

/-- The requested aspects with one more, if it is not among them. -/
def addRequested (requested : List (AspectId × Nat)) (a : AspectId) (n : Nat) :
    List (AspectId × Nat) :=
  if (requested.lookup a).isSome then requested else requested ++ [(a, n)]

theorem isSome_lookup_iff {α β : Type} [BEq α] [LawfulBEq α] {es : List (α × β)} {a : α} :
    (es.lookup a).isSome ↔ a ∈ es.map Prod.fst := by
  induction es with
  | nil => simp
  | cons e rest ih =>
    obtain ⟨b, n⟩ := e
    by_cases heq : a = b
    · simp [heq]
    · simp [List.lookup_cons, beq_false_of_ne heq, heq, ih]

theorem mem_addRequested {requested : List (AspectId × Nat)} {a b : AspectId} {n : Nat} :
    b ∈ (addRequested requested a n).map Prod.fst ↔ b ∈ requested.map Prod.fst ∨ b = a := by
  unfold addRequested
  split
  · rename_i h
    constructor
    · exact .inl
    · rintro (hb | rfl)
      · exact hb
      · exact isSome_lookup_iff.mp h
  · simp [or_comm]

theorem requested_addRequested {q : JoinPlan} {requested : List (AspectId × Nat)} {a : AspectId}
    {n : Nat} (h : p.Requested requested) (hadds : p.Adds q (.aspect a) n) :
    q.Requested (addRequested requested a n) := by
  unfold addRequested
  intro e he
  split at he
  · exact (h e he).mono hadds.grows
  · rcases List.mem_append.mp he with he | he
    · exact (h e he).mono hadds.grows
    · rw [List.mem_singleton.mp he]
      exact hadds.has

theorem joinAspects_cons {kind : Sql.JoinKind} {requested : List (AspectId × Nat)} {a : AspectId}
    {rest : List AspectId} {n : Nat} {q : JoinPlan}
    (h : p.joinAspect schema kind anchor a = .ok (n, q)) :
    p.joinAspects schema kind anchor requested (a :: rest) =
      q.joinAspects schema kind anchor (addRequested requested a n) rest := by
  unfold joinAspects
  rw [List.foldlM_cons]
  dsimp only
  rw [h]
  rfl

/-- What holds of the plan with each further aspect holds with all of them. -/
theorem joinAspects_induct {kind : Sql.JoinKind} (I : List AspectId → JoinPlan → Prop)
    (done : List AspectId) {aspects : List AspectId} {requested : List (AspectId × Nat)}
    (step : ∀ done p a, a ∈ aspects → I done p → ∃ n q,
      p.joinAspect schema kind anchor a = .ok (n, q) ∧ I (done ++ [a]) q ∧ p.Adds q (.aspect a) n)
    (h : I done p) (hrequested : p.Requested requested) :
    ∃ all q, p.joinAspects schema kind anchor requested aspects = .ok (all, q) ∧
      I (done ++ aspects) q ∧ p.Grows q ∧ q.Requested all ∧
      ∀ a, a ∈ all.map Prod.fst ↔ a ∈ requested.map Prod.fst ∨ a ∈ aspects := by
  induction aspects generalizing done p requested with
  | nil => exact ⟨requested, p, rfl, by simpa using h, .refl p, hrequested, by simp⟩
  | cons a rest ih =>
    obtain ⟨n, q, hjoin, hq, hadds⟩ := step done p a List.mem_cons_self h
    obtain ⟨all, q', hrest, hq', hgrows, hall, hmem⟩ :=
      ih (done ++ [a]) (fun done p b hb => step done p b (List.mem_cons_of_mem a hb)) hq
        (requested_addRequested hrequested hadds)
    refine ⟨all, q', by rw [joinAspects_cons hjoin, hrest], by simpa using hq',
      hadds.grows.trans hgrows, hall, fun b => ?_⟩
    rw [hmem, mem_addRequested, List.mem_cons, or_assoc]

theorem Fits.joinAspects_loosely (h : p.Fits ops db schema ms base anchor kept)
    (hdb : db.Keyed ops schema) (hs : schema.Proper) {aspects : List AspectId}
    (ha : ∀ a ∈ aspects, (schema.aspect? a).isSome)
    {requested : List (AspectId × Nat)} (hrequested : p.Requested requested) :
    ∃ all q, p.joinAspects schema .leftOuter anchor requested aspects = .ok (all, q) ∧
      q.Fits ops db schema ms base anchor kept ∧ p.Grows q ∧ q.Requested all ∧
      ∀ a, a ∈ all.map Prod.fst ↔ a ∈ requested.map Prod.fst ∨ a ∈ aspects := by
  refine joinAspects_induct (fun _ p => p.Fits ops db schema ms base anchor kept) [] ?_ h
    hrequested
  intro _ p a hmem hp
  obtain ⟨b, hb⟩ := Option.isSome_iff_exists.mp (ha a hmem)
  exact hp.joinAspect_loosely hdb hs hb

theorem Fits.joinAspects_strictly (h : p.Fits ops db schema ms base anchor kept)
    (ht : p.Tight db schema base kept) (hdb : db.Keyed ops schema) (hs : schema.Proper)
    {aspects : List AspectId} (ha : ∀ a ∈ aspects, (schema.aspect? a).isSome) :
    ∃ all q, p.joinAspects schema .inner anchor [] aspects = .ok (all, q) ∧
      q.Fits ops db schema ms base anchor
        (fun r => kept r && aspects.all (present db schema r)) ∧
      p.Grows q ∧ q.Requested all ∧ ∀ a, a ∈ all.map Prod.fst ↔ a ∈ aspects := by
  have hstep : ∀ (done : List AspectId) (p : JoinPlan) a, a ∈ aspects →
      (p.Fits ops db schema ms base anchor (fun r => kept r && done.all (present db schema r)) ∧
        p.Tight db schema base (fun r => kept r && done.all (present db schema r))) →
      ∃ (n : Nat) (q : JoinPlan), p.joinAspect schema .inner anchor a = .ok (n, q) ∧
        (q.Fits ops db schema ms base anchor
          (fun r => kept r && (done ++ [a]).all (present db schema r)) ∧
        q.Tight db schema base (fun r => kept r && (done ++ [a]).all (present db schema r))) ∧
        p.Adds q (.aspect a) n := by
    rintro done p a hmem ⟨hp, hpt⟩
    obtain ⟨b, hb⟩ := Option.isSome_iff_exists.mp (ha a hmem)
    obtain ⟨n, q, hjoin, hfits, htight, hadds⟩ := hp.joinAspect_strictly hpt hdb hs hb
    have hassoc : ∀ r, (kept r && done.all (present db schema r) && present db schema r a) =
        (kept r && (done ++ [a]).all (present db schema r)) := by
      intro r
      simp [Bool.and_assoc]
    simp only [hassoc] at hfits htight
    exact ⟨n, q, hjoin, ⟨hfits, htight⟩, hadds⟩
  have hnone : ∀ r, kept r = (kept r && List.all [] (present db schema r)) := by
    intro r
    simp
  have hstart : p.Fits ops db schema ms base anchor
        (fun r => kept r && List.all [] (present db schema r)) ∧
      p.Tight db schema base (fun r => kept r && List.all [] (present db schema r)) :=
    ⟨h.congr fun r _ => hnone r, by simpa using ht⟩
  obtain ⟨all, q, hjoin, ⟨hfits, -⟩, hgrows, hall, hmem⟩ :=
    joinAspects_induct _ [] hstep hstart fun e he => absurd he List.not_mem_nil
  exact ⟨all, q, hjoin, hfits, hgrows, hall, by simpa using hmem⟩

end

end JoinPlan

end AspectQuery

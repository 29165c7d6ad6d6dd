import AspectQuery.Proofs.Predicate.Draft
/-!
# Tests that are written in one pass

The values of a test are given the type of the attribute one after another, and are written at once.
This comes to the same as making the test of them first, and fails at the same value.
-/

set_option autoImplicit false

namespace AspectQuery

namespace Segment

/-- The lists with their values numbered from one to the next. -/
def numberAll : Nat → List (List Segment) → List (List Part)
  | _, [] => []
  | n, ss :: rest => number n ss :: numberAll (n + (params ss).length) rest

theorem number_separated (separator : String) (n : Nat) (sss : List (List Segment)) :
    number n (separated separator sss) = Part.separated separator (numberAll n sss) := by
  induction sss generalizing n with
  | nil => rfl
  | cons ss rest ih =>
    cases rest with
    | nil => simp [separated, numberAll, Part.separated]
    | cons ts rest =>
      have hseparated : separated separator (ss :: ts :: rest) =
          ss ++ .sql separator :: separated separator (ts :: rest) := rfl
      rw [hseparated, number_append, number, ih]
      simp [numberAll, Part.separated]

theorem number_enclosed (separator : String) (n : Nat) (sss : List (List Segment)) :
    number n (.sql "(" :: separated separator sss ++ [.sql ")"]) =
      .sql "(" :: Part.separated separator (numberAll n sss) ++ [.sql ")"] := by
  rw [List.cons_append, number, number_append, number_separated]
  rfl

theorem number_grouped (separator : String) (n : Nat) (sss : List (List Segment)) :
    number n (grouped separator sss) = Part.grouped separator (numberAll n sss) := by
  cases sss with
  | nil => rfl
  | cons ss rest =>
    cases rest with
    | nil => rfl
    | cons ts rest => exact number_enclosed separator n (ss :: ts :: rest)

theorem numberAll_values (n : Nat) (vs : List Value) :
    numberAll n (vs.map fun v => [.value v]) = (number n (vs.map .value)).map fun p => [p] := by
  induction vs generalizing n with
  | nil => rfl
  | cons v vs ih => exact congrArg _ (ih (n + 1))

end Segment

/-- A first piece is cut off, unless it is short and nothing is behind it. -/
theorem chunksWithin_append {α : Type} {size : Nat} (steps : Nat) {xs ys : List α}
    (hpos : 0 < xs.length) (h : xs.length = size ∨ xs.length < size ∧ ys.length = 0) :
    chunksWithin size (steps + 1) (xs ++ ys) = xs :: chunksWithin size steps ys := by
  have htake : (xs ++ ys).take size = xs ∧ (xs ++ ys).drop size = ys := by
    rcases h with hsize | ⟨hsize, hnil⟩
    · exact ⟨List.take_left' hsize, List.drop_left' hsize⟩
    · obtain rfl := List.eq_nil_of_length_eq_zero hnil
      rw [List.append_nil]
      exact ⟨List.take_of_length_le hsize.le, List.drop_of_length_le hsize.le⟩
  obtain ⟨x, rest, rfl⟩ := List.exists_cons_of_length_pos hpos
  rw [List.cons_append] at htake ⊢
  rw [chunksWithin, htake.1, htake.2]

theorem mapM_chunksWithin {α β ε : Type} {f : α → Except ε β} {size : Nat} (hsize : 0 < size)
    {steps : Nat} {xs : List α} (h : xs.length ≤ steps) :
    (chunksWithin size steps xs).mapM (List.mapM f) =
      (xs.mapM f).map (chunksWithin size steps) := by
  induction steps generalizing xs with
  | zero =>
    obtain rfl := List.eq_nil_of_length_eq_zero (Nat.le_zero.mp h)
    rfl
  | succ steps ih =>
    cases xs with
    | nil => rfl
    | cons x rest =>
      have hdrop : ((x :: rest).drop size).length ≤ steps := by
        rw [List.length_drop]
        rw [List.length_cons] at h ⊢
        omega
      rw [chunksWithin, List.mapM_cons, ih hdrop]
      conv_rhs => rw [← List.take_append_drop size (x :: rest), List.mapM_append]
      cases hfirst : ((x :: rest).take size).mapM f with
      | error e => rfl
      | ok ys =>
        cases hbehind : ((x :: rest).drop size).mapM f with
        | error e => rfl
        | ok zs =>
          have hys := length_of_mapM hfirst
          have hzs := length_of_mapM hbehind
          rw [List.length_take, List.length_cons] at hys
          rw [List.length_drop, List.length_cons] at hzs
          have hcut : chunksWithin size (steps + 1) (ys ++ zs) = ys :: chunksWithin size steps zs :=
            chunksWithin_append steps (by omega) (by omega)
          exact congrArg Except.ok hcut.symm

theorem Options.mapM_chunks {α β ε : Type} (o : Options) (f : α → Except ε β) (xs : List α) :
    (o.chunks xs).mapM (List.mapM f) = (xs.mapM f).map o.chunks := by
  have hsize : 0 < o.chunkSize := by
    unfold chunkSize
    omega
  rw [chunks, mapM_chunksWithin hsize (Nat.le_refl _)]
  cases hmap : xs.mapM f with
  | error e => rfl
  | ok ys =>
    rw [Except.map, Except.map, chunks, length_of_mapM hmap]

namespace Draft

section Tests

def pushAll (d : Draft) (vs : List Value) : Draft := { d with params := d.params ++ vs }

theorem pushAll_nil (d : Draft) : d.pushAll [] = d := by
  simp [pushAll]

theorem pushAll_append (d : Draft) (vs ws : List Value) :
    d.pushAll (vs ++ ws) = (d.pushAll vs).pushAll ws := by
  simp [pushAll]

theorem length_params_pushAll (d : Draft) (vs : List Value) :
    (d.pushAll vs).params.length = d.params.length + vs.length := by
  simp [pushAll]

variable {coerce : Value → Except QueryError Value} {x : Segment} {o : Part}

theorem values_eq (vs : List Value) (d : Draft) :
    values coerce vs d = (vs.mapM coerce).map fun ws =>
      (Segment.number d.params.length (ws.map .value), d.pushAll ws) := by
  induction vs generalizing d with
  | nil => exact congrArg Except.ok (Prod.ext rfl d.pushAll_nil.symm)
  | cons v vs ih =>
    rw [values, List.mapM_cons, map_bind]
    refine bind_congr fun w => ?_
    rw [ih, bind_map, map_bind]
    refine bind_congr fun ws => ?_
    have hlength : (d.push w).params.length = d.params.length + 1 := by simp [push]
    have hpush : (d.push w).pushAll ws = d.pushAll (w :: ws) := by simp [push, pushAll]
    rw [hlength, hpush]
    rfl

/-- The part stands for the segment, which is no value. -/
structure Stands (x : Segment) (o : Part) : Prop where
  value? : x.value? = none
  number : ∀ n ss, Segment.number n (x :: ss) = o :: Segment.number n ss

theorem stands_column (m : Mention) : Stands (.column m) (.attribute m.index) :=
  ⟨rfl, fun _ _ => rfl⟩

theorem stands_sql (text : String) : Stands (.sql text) (.sql text) := ⟨rfl, fun _ _ => rfl⟩

theorem stands_anchor : Stands .anchor .anchor := ⟨rfl, fun _ _ => rfl⟩

/-- The test whether the operand is in a list. -/
def cluster (x : Segment) (vs : List Value) : List Segment :=
  [x, .sql " IN ("] ++ Segment.separated ", " (vs.map fun v => [.value v]) ++ [.sql ")"]

theorem params_cluster (hx : x.value? = none) (vs : List Value) :
    Segment.params (cluster x vs) = vs := by
  have hvalues : (vs.map fun v => [Segment.value v]).flatMap Segment.params = vs := by
    induction vs with
    | nil => rfl
    | cons v vs ih => exact congrArg (v :: ·) ih
  simp [cluster, Segment.params_operand hx, Segment.params_separated, hvalues]

theorem number_cluster (h : Stands x o) (n : Nat) (vs : List Value) :
    Segment.number n (cluster x vs) = [o, .sql " IN ("] ++
      Part.separated ", " ((Segment.number n (vs.map .value)).map fun p => [p]) ++ [.sql ")"] := by
  have hlist : Segment.number n (Segment.separated ", " (vs.map fun v => [.value v])) =
      Part.separated ", " ((Segment.number n (vs.map .value)).map fun p => [p]) := by
    rw [Segment.number_separated, Segment.numberAll_values]
  simp only [cluster, List.cons_append, List.nil_append, h.number, Segment.number,
    Segment.number_append, hlist]

theorem clusters_eq (h : Stands x o) (chunks : List (List Value)) (d : Draft) :
    clusters coerce o chunks d = (chunks.mapM (List.mapM coerce)).map fun wss =>
      (Segment.numberAll d.params.length (wss.map (cluster x)), d.pushAll wss.flatten) := by
  induction chunks generalizing d with
  | nil => exact congrArg Except.ok (Prod.ext rfl d.pushAll_nil.symm)
  | cons vs chunks ih =>
    rw [clusters, values_eq, bind_map, List.mapM_cons, map_bind]
    refine bind_congr fun ws => ?_
    dsimp only
    rw [ih, bind_map, map_bind]
    refine bind_congr fun wss => ?_
    dsimp only
    rw [length_params_pushAll, ← pushAll_append, ← number_cluster h]
    have hnumbers : Segment.numberAll d.params.length ((ws :: wss).map (cluster x)) =
        Segment.number d.params.length (cluster x ws) ::
          Segment.numberAll (d.params.length + ws.length) (wss.map (cluster x)) := by
      rw [List.map_cons, Segment.numberAll, params_cluster h.value?]
    rw [show ws ++ wss.flatten = (ws :: wss).flatten from rfl, ← hnumbers]
    rfl

/-- Writes a test behind what was written before. -/
def Writes (write : Attribute → Part → Draft → Except QueryError (List Part × Draft))
    (test : Attribute → Except QueryError Test) : Prop :=
  ∀ target {x o}, Stands x o → ∀ d, write target o d = (test target).map fun t =>
    (Segment.number d.params.length (t.segments x), d.pushAll t.values)

theorem number_escape (n : Nat) (escape : Option Char) :
    Segment.number n (Test.escapeSegments escape) = Part.escape escape := by
  cases escape <;> rfl

theorem writes_relational (op : Relation) (v : Value) :
    Writes (relational op v) fun target => return .relational op (← target.filterValue v) := by
  intro target x o h d
  rw [relational, map_bind]
  refine bind_congr fun w => ?_
  simp only [pure, Except.pure, Except.map, Test.segments, h.number, Segment.number]
  rfl

theorem writes_like (pattern : String) (escape : Option Char) (caseSensitive : Bool) :
    Writes (fun _ => like pattern escape caseSensitive)
      fun _ => return .like pattern escape caseSensitive := by
  intro target x o h d
  cases caseSensitive with
  | true =>
    simp only [like, pure, Except.pure, Except.map, Test.segments, List.cons_append,
      List.nil_append, h.number, Segment.number, number_escape, if_true]
    rfl
  | false =>
    simp only [like, pure, Except.pure, Except.map, Test.segments, List.cons_append,
      List.nil_append, h.number, Segment.number, number_escape, Bool.false_eq_true, if_false]
    rfl

theorem writes_similarTo (options : Options) (pattern : String) (escape : Option Char) :
    Writes (fun _ => similarTo options pattern escape) fun _ =>
      if options.dialect.supportsSimilarTo then return .similarTo pattern escape
      else throw (.similarToUnsupported options.dialect) := by
  intro target x o h d
  unfold similarTo
  split
  · simp only [pure, Except.pure, Except.map, Test.segments, List.cons_append, List.nil_append,
      h.number, Segment.number, number_escape]
    rfl
  · rfl

theorem writes_between (low high : Value) :
    Writes (between low high) fun target =>
      return .between (← target.filterValue low) (← target.filterValue high) := by
  intro target x o h d
  rw [between, map_bind]
  refine bind_congr fun l => ?_
  rw [map_bind]
  refine bind_congr fun u => ?_
  simp only [pure, Except.pure, Except.map, Test.segments, h.number, Segment.number, push,
    List.length_append, List.length_singleton, pushAll, Test.values, List.append_assoc,
    List.singleton_append]

theorem writes_among (options : Options) (vs : List Value) :
    Writes (among options vs) fun target => do
      if vs.isEmpty then throw (.emptyInList target.path)
      return .among (options.chunks (← vs.mapM target.filterValue)) := by
  intro target x o h d
  unfold among
  split
  · rfl
  · dsimp only [pure_bind]
    rw [clusters_eq h, options.mapM_chunks, bind_map, bind_map, map_bind]
    refine bind_congr fun ws => ?_
    have hparts : Segment.number d.params.length (Segment.membership x (options.chunks ws)) =
        Part.grouped Connective.or.sql
          (Segment.numberAll d.params.length ((options.chunks ws).map (cluster x))) :=
      Segment.number_grouped _ _ _
    simp only [pure, Except.pure, Except.map, Test.segments, hparts]
    rfl

end Tests

end Draft

end AspectQuery

import AspectQuery.Proofs.Predicate.Blank
import AspectQuery.Proofs.Predicate.Meaning
import AspectQuery.Proofs.Predicate.Places
/-!
# The lists of predicates

The values of a node that asks for one of them are cut into pieces, and each piece stands in a list
of its own. No list is empty or longer than the options allow, and the lists of a node hold its
values from left to right, each of them once.
-/

set_option autoImplicit false

namespace AspectQuery

namespace Part

/-- The places in each list of the text, up to the parenthesis that closes it. -/
def lists : List Part → List (List Nat)
  | [] => []
  | part :: rest =>
    if part = .sql " IN (" then (rest.takeWhile (· ≠ .sql ")")).filterMap place? :: lists rest
    else lists rest

end Part

namespace Filter

section

variable (schema : Schema)

mutual

/-- The values of each node that asks for one of them. No ids need no list, and an OR that restricts
nothing is left out with all its lists. -/
def members : Filter → List (List Value)
  | .combine .or operands =>
    if (combine .or operands).unrestricted then [] else membersOfAll operands
  | .combine .and operands => membersOfAll operands
  | .not filter => filter.members
  | .among path vs => [vs.map (coerced schema path)]
  | .itemIds ids => if ids.isEmpty then [] else [ids.map .id]
  | _ => []

def membersOfAll : List Filter → List (List Value)
  | [] => []
  | filter :: rest => filter.members ++ membersOfAll rest

end

def members? : Option Filter → List (List Value)
  | none => []
  | some filter => filter.members schema

end

end Filter

/-- How the lists of a predicate hold the values of the nodes of a filter. -/
structure Predicate.Lists (p : Predicate) (size : Nat) (members : List (List Value)) : Prop where
  pieces : ∃ pieces : List (List (List Value)), pieces.map List.flatten = members ∧
    (Part.lists p.parts).map (fun places => places.map (p.params[·]?)) =
      pieces.flatten.map (List.map some)
  once : (Part.lists p.parts).flatten.Pairwise (· < ·)
  length : ∀ places ∈ Part.lists p.parts, 1 ≤ places.length ∧ places.length ≤ size

/-- The lists in a test, cut into pieces. -/
def Test.pieces : Test → List (List (List Value))
  | .among chunks => [chunks]
  | _ => []

namespace Condition

mutual

def pieces : Condition → List (List (List Value))
  | .not c => c.pieces
  | .junction _ operands => piecesOfAll operands
  | .test _ t => t.pieces
  | .itemIds chunks => [chunks.map fun ids => ids.map .id]
  | _ => []

def piecesOfAll : List Condition → List (List (List Value))
  | [] => []
  | c :: rest => c.pieces ++ piecesOfAll rest

end

theorem piecesOfAll_eq (cs : List Condition) : piecesOfAll cs = cs.flatMap pieces := by
  induction cs with
  | nil => rfl
  | cons c cs ih => rw [piecesOfAll, ih, List.flatMap_cons]

end Condition

namespace Segment

/-- A text with lists of some values, one after another. -/
inductive Lists : List Segment → List (List Value) → Prop where
  | nil : Lists [] []
  | other {s : Segment} {ss : List Segment} {vss : List (List Value)} (hs : s ≠ .sql " IN (")
      (h : Lists ss vss) : Lists (s :: ss) vss
  | list (vs : List Value) {ss : List Segment} {vss : List (List Value)} (h : Lists ss vss) :
      Lists (.sql " IN (" :: (separated ", " (vs.map fun v => [.value v]) ++ .sql ")" :: ss))
        (vs :: vss)

namespace Lists

variable {ss ts : List Segment} {vss wss : List (List Value)}

theorem append (h : Lists ss vss) (h' : Lists ts wss) : Lists (ss ++ ts) (vss ++ wss) := by
  induction h with
  | nil => exact h'
  | other hs _ ih => exact .other hs ih
  | list vs _ ih =>
    rw [List.cons_append, List.append_assoc, List.cons_append]
    exact .list vs ih

theorem of_forall (h : ∀ s ∈ ss, s ≠ .sql " IN (") : Lists ss [] := by
  induction ss with
  | nil => exact .nil
  | cons s ss ih =>
    obtain ⟨hs, hss⟩ := List.forall_mem_cons.mp h
    exact .other hs (ih hss)

/-- A text before and a text behind that hold no list. -/
theorem enclose {before after : List Segment} (hbefore : ∀ s ∈ before, s ≠ .sql " IN (")
    (h : Lists ss vss) (hafter : ∀ s ∈ after, s ≠ .sql " IN (") :
    Lists (before ++ ss ++ after) vss := by
  simpa using ((of_forall hbefore).append h).append (of_forall hafter)

variable {α : Type} {f : α → List Segment} {g : α → List (List Value)} {separator : String}

theorem separated (hseparator : separator ≠ " IN (") {xs : List α}
    (h : ∀ x ∈ xs, Lists (f x) (g x)) :
    Lists (separated separator (xs.map f)) (xs.flatMap g) := by
  induction xs with
  | nil => exact .nil
  | cons x rest ih =>
    obtain ⟨hx, hrest⟩ := List.forall_mem_cons.mp h
    cases rest with
    | nil => simpa [Segment.separated] using hx
    | cons y rest => exact hx.append (.other (by simpa using hseparator) (ih hrest))

theorem grouped (hseparator : separator ≠ " IN (") {xs : List α}
    (h : ∀ x ∈ xs, Lists (f x) (g x)) :
    Lists (grouped separator (xs.map f)) (xs.flatMap g) := by
  have hseparated := separated hseparator h
  unfold Segment.grouped
  split
  · rename_i ss heq
    rw [heq] at hseparated
    exact hseparated
  · have hopen : ∀ s ∈ [Segment.sql "("], s ≠ .sql " IN (" := by simp
    exact enclose hopen hseparated (by simp)

end Lists

theorem lists_membership {x : Segment} (hx : x ≠ .sql " IN (") (chunks : List (List Value)) :
    Lists (membership x chunks) chunks := by
  have hchunks : Lists (membership x chunks) (chunks.flatMap fun vs => [vs]) := by
    refine Lists.grouped (by decide) fun vs _ => ?_
    exact .other hx (.list vs .nil)
  simpa using hchunks

/-- A list of values is numbered to a list of places, one behind another. -/
theorem places_separated (n : Nat) (vs : List Value) (rest : List Part) :
    ((number n (separated ", " (vs.map fun v => [.value v])) ++ .sql ")" :: rest).takeWhile
      (· ≠ .sql ")")).filterMap Part.place? = List.range' n vs.length := by
  induction vs generalizing n with
  | nil => simp [separated, number]
  | cons v vs ih =>
    cases vs with
    | nil => simp [separated, number, Part.place?]
    | cons w vs =>
      have hrest := ih (n + 1)
      simp only [List.map_cons] at hrest
      simpa [separated, number, Part.place?, List.range'_succ, List.filterMap_cons] using hrest

theorem lists_separated (n : Nat) (vs : List Value) (rest : List Part) :
    Part.lists (number n (separated ", " (vs.map fun v => [.value v])) ++ .sql ")" :: rest) =
      Part.lists rest := by
  induction vs generalizing n with
  | nil => simp [separated, number, Part.lists]
  | cons v vs ih =>
    cases vs with
    | nil => simp [separated, number, Part.lists]
    | cons w vs =>
      have hrest := ih (n + 1)
      simp only [List.map_cons] at hrest
      simpa [separated, number, Part.lists] using hrest

theorem params_values (vs : List Value) :
    params (separated ", " (vs.map fun v => [.value v])) = vs := by
  rw [params_separated, List.flatMap_map]
  exact List.flatMap_singleton' vs

theorem lists_number_list (n : Nat) (vs : List Value) (ss : List Segment) :
    Part.lists (number n (.sql " IN (" ::
      (separated ", " (vs.map fun v => [.value v]) ++ .sql ")" :: ss))) =
        List.range' n vs.length :: Part.lists (number (n + vs.length) ss) := by
  rw [number, number_append, params_values, number, Part.lists, if_pos rfl, places_separated,
    lists_separated]

theorem getElem?_range' (before vs after : List Value) :
    (List.range' before.length vs.length).map ((before ++ vs ++ after)[·]?) = vs.map some := by
  induction vs generalizing before with
  | nil => rfl
  | cons v vs ih =>
    have hrest := ih (before ++ [v])
    simp only [List.length_append, List.length_singleton, List.append_assoc,
      List.cons_append, List.nil_append] at hrest
    simp [List.range'_succ, hrest]

namespace Lists

variable {ss : List Segment} {vss : List (List Value)}

/-- The places in the lists lead to the values of the lists. -/
theorem values (h : Lists ss vss) (before : List Value) :
    (Part.lists (number before.length ss)).map
      (fun places => places.map ((before ++ params ss)[·]?)) = vss.map (List.map some) := by
  induction h generalizing before with
  | nil => rfl
  | @other s ss vss hs h ih =>
    cases s with
    | value v =>
      have hrest := ih (before ++ [v])
      simpa [number, Part.lists] using hrest
    | sql text =>
      have htext : Part.sql text ≠ .sql " IN (" := by simpa using hs
      simpa [number, Part.lists, htext] using ih before
    | _ => exact ih before
  | @list vs ss vss h ih =>
    have hrest := ih (before ++ vs)
    simp only [List.length_append, List.append_assoc] at hrest
    have hvs : (List.range' before.length vs.length).map
        ((before ++ (vs ++ params ss))[·]?) = vs.map some := by
      rw [← List.append_assoc]
      exact getElem?_range' before vs (params ss)
    rw [lists_number_list, params_sql, params_append, params_values, params_sql, List.map_cons,
      List.map_cons, hrest, hvs]

/-- Every place stands in one list at most, and the lists follow one another. -/
theorem places (h : Lists ss vss) (n : Nat) :
    (Part.lists (number n ss)).flatten.Sublist (List.range' n (params ss).length) := by
  induction h generalizing n with
  | nil => exact .slnil
  | @other s ss vss hs h ih =>
    cases s with
    | value v =>
      rw [params_value, List.length_cons, List.range'_succ]
      exact (ih (n + 1)).trans (List.sublist_cons_self n _)
    | sql text =>
      have htext : Part.sql text ≠ .sql " IN (" := by simpa using hs
      simpa [number, Part.lists, htext] using ih n
    | _ => exact ih n
  | @list vs ss vss h ih =>
    rw [lists_number_list, params_sql, params_append, params_values, params_sql, List.flatten_cons,
      List.length_append, List.range'_append_1.symm]
    exact (List.Sublist.refl _).append (ih (n + vs.length))

end Lists

end Segment

namespace CollectionRows

theorem existence_ne (rows : CollectionRows) : rows.existence ≠ " IN (" := by
  intro heq
  have hlist := congrArg String.toList heq
  cases rows with
  | direct => simp [existence_direct] at hlist
  | shared => simp [existence_shared] at hlist

theorem not_existence_ne (rows : CollectionRows) : "NOT " ++ rows.existence ≠ " IN (" := by
  intro heq
  have hlist := congrArg String.toList heq
  simp at hlist

theorem valueColumn_ne (rows : CollectionRows) : rows.valueColumn ≠ " IN (" := by
  intro heq
  have hlist := congrArg String.toList heq
  cases rows <;> simp [valueColumn] at hlist

end CollectionRows

theorem Test.escapeSegments_ne (escape : Option Char) :
    ∀ s ∈ escapeSegments escape, s ≠ .sql " IN (" := by
  intro s hs heq
  cases escape with
  | none => simp [escapeSegments] at hs
  | some c =>
    obtain rfl := List.mem_singleton.mp hs
    have hlist := congrArg String.toList (Segment.sql.inj heq)
    simp at hlist

theorem Test.lists_segments {x : Segment} (hx : x ≠ .sql " IN (") (t : Test) :
    Segment.Lists (t.segments x) t.pieces.flatten := by
  cases t with
  | relational op v =>
    have hop : " " ++ op.sql ++ " " ≠ " IN (" := by cases op <;> decide
    exact .of_forall (by simp [segments, hx, hop])
  | like pattern escape caseSensitive =>
    have hescape := escapeSegments_ne escape
    cases caseSensitive with
    | true => exact .of_forall (List.forall_mem_append.mpr ⟨by simp [hx], hescape⟩)
    | false => exact .of_forall (List.forall_mem_append.mpr ⟨by simp [hx], hescape⟩)
  | similarTo pattern escape =>
    exact .of_forall (List.forall_mem_append.mpr ⟨by simp [hx], escapeSegments_ne escape⟩)
  | between low high => exact .of_forall (by simp [segments, hx])
  | among chunks =>
    rw [pieces, List.flatten_singleton]
    exact Segment.lists_membership hx chunks

namespace Condition

mutual

theorem lists_segments (c : Condition) : Segment.Lists c.segments c.pieces.flatten := by
  cases c with
  | never => exact .of_forall (by simp [segments])
  | not c =>
    have hopen : ∀ s ∈ [Segment.sql "NOT ("], s ≠ .sql " IN (" := by simp
    exact .enclose hopen (lists_segments c) (by simp)
  | junction op cs =>
    have hopen : ∀ s ∈ [Segment.sql "("], s ≠ .sql " IN (" := by simp
    have hop : op.sql ≠ " IN (" := by cases op <;> decide
    have hpieces : (piecesOfAll cs).flatten = cs.flatMap fun c => c.pieces.flatten := by
      rw [piecesOfAll_eq]
      induction cs with
      | nil => rfl
      | cons c cs ih => simp [ih]
    rw [segments, segmentsOfAll_eq, pieces, hpieces]
    exact .enclose hopen (.separated hop (lists_of_mem cs)) (by simp)
  | isEmpty s =>
    cases s with
    | column m => exact .of_forall (by simp [segments])
    | collection path rows => exact .of_forall (by simp [segments, rows.not_existence_ne])
  | test s t =>
    cases s with
    | column m => exact t.lists_segments (by simp)
    | collection path rows =>
      have hopen : ∀ s ∈ [.sql rows.existence, .anchor, .sql " AND "],
          s ≠ Segment.sql " IN (" := by simp [rows.existence_ne]
      have hcolumn : Segment.sql rows.valueColumn ≠ .sql " IN (" := by simp [rows.valueColumn_ne]
      exact .enclose hopen (t.lists_segments hcolumn) (by simp)
  | itemIds chunks =>
    rw [pieces, List.flatten_singleton]
    exact Segment.lists_membership (by simp) _

theorem lists_of_mem (cs : List Condition) :
    ∀ c ∈ cs, Segment.Lists c.segments c.pieces.flatten := by
  cases cs with
  | nil => simp
  | cons c cs => exact List.forall_mem_cons.mpr ⟨lists_segments c, lists_of_mem cs⟩

end

end Condition

theorem length_le_of_mem_chunksWithin {α : Type} {size steps : Nat} {xs : List α} :
    ∀ ys ∈ chunksWithin size steps xs, ys.length ≤ size := by
  fun_induction chunksWithin size steps xs with
  | case1 => simp
  | case2 => simp
  | case3 steps x rest ih =>
    intro ys hys
    rcases List.mem_cons.mp hys with rfl | hys
    · exact List.length_take_le size (x :: rest)
    · exact ih ys hys

/-- No list is empty, and none is longer than a size. -/
def Sized (size : Nat) (pieces : List (List (List Value))) : Prop :=
  ∀ chunks ∈ pieces, ∀ vs ∈ chunks, vs ≠ [] ∧ vs.length ≤ size

theorem Sized.append {size : Nat} {pieces pieces' : List (List (List Value))}
    (h : Sized size pieces) (h' : Sized size pieces') : Sized size (pieces ++ pieces') :=
  List.forall_mem_append.mpr ⟨h, h'⟩

theorem sized_chunks (o : Options) (vs : List Value) : Sized o.chunkSize [o.chunks vs] := by
  intro chunks hchunks us hus
  obtain rfl := List.mem_singleton.mp hchunks
  exact ⟨o.ne_nil_of_mem_chunks hus, length_le_of_mem_chunksWithin us hus⟩

namespace Predicate

def pieces (p : Predicate) : List (List (List Value)) :=
  (p.condition.map Condition.pieces).getD []

variable {schema : Schema} {options : Options}

theorem pieces_combine (op : Connective) (ps : List Predicate) :
    (combine op ps).pieces =
      if op = .or ∧ ps.any isUnrestricted then [] else ps.flatMap pieces :=
  getD_combine Condition.piecesOfAll_eq ps

theorem pieces_comparing {path : AttributePath} {ms ms' : Mentions} {p : Predicate}
    {test : Attribute → Except QueryError Test} (h : comparing schema path ms test = .ok (p, ms')) :
    ∃ target t, schema.lookup path = .ok target ∧ test target = .ok t ∧ p.pieces = t.pieces := by
  obtain ⟨target, t, hfind, ht, rfl, -⟩ := comparing_eq_ok_iff.mp h
  exact ⟨target, t, hfind, ht, rfl⟩

mutual

theorem pieces_ofFilter (filter : Filter) {ms ms' : Mentions} {p : Predicate}
    (h : ofFilter schema options filter ms = .ok (p, ms')) :
    p.pieces.map List.flatten = filter.members schema ∧ Sized options.chunkSize p.pieces := by
  cases filter with
  | combine op operands =>
    obtain ⟨ps, hps, rfl⟩ := ofFilter_combine_eq_ok_iff.mp h
    obtain ⟨hpieces, hsized⟩ := pieces_ofFilters operands hps
    rw [pieces_combine, drop_combine_eq op (params_ofFilters operands hps).2 (isEmpty_ofFilters hps)
      (by rintro rfl; rfl)]
    cases op with
    | and => simpa [Filter.members] using ⟨hpieces, hsized⟩
    | or =>
      rw [Filter.members]
      by_cases hor : (Filter.combine .or operands).unrestricted
      · simpa [hor] using nofun
      · simpa [hor] using ⟨hpieces, hsized⟩
  | not filter =>
    obtain ⟨q, hq, rfl⟩ := ofFilter_not_eq_ok_iff.mp h
    have hpieces : (⟨some q.negation⟩ : Predicate).pieces = q.pieces := by
      obtain ⟨_ | c⟩ := q <;> rfl
    rw [hpieces]
    exact pieces_ofFilter filter hq
  | empty path =>
    obtain ⟨target, c, hfind, hc, rfl, -⟩ := about_eq_ok_iff.mp h
    obtain rfl := pure_eq_ok.mp hc
    exact ⟨rfl, nofun⟩
  | relational path op v =>
    obtain ⟨target, t, hfind, ht, hpieces⟩ := pieces_comparing h
    simp only [bind_eq_ok, pure_eq_ok] at ht
    obtain ⟨u, -, rfl⟩ := ht
    rw [hpieces]
    exact ⟨rfl, nofun⟩
  | like path pattern escape caseSensitive =>
    obtain ⟨target, t, hfind, ht, hpieces⟩ := pieces_comparing h
    obtain rfl := pure_eq_ok.mp ht
    rw [hpieces]
    exact ⟨rfl, nofun⟩
  | similarTo path pattern escape =>
    obtain ⟨target, t, hfind, ht, hpieces⟩ := pieces_comparing h
    obtain ⟨-, rfl⟩ := similarTo_eq_ok_iff.mp ht
    rw [hpieces]
    exact ⟨rfl, nofun⟩
  | between path low high =>
    obtain ⟨target, t, hfind, ht, hpieces⟩ := pieces_comparing h
    simp only [bind_eq_ok, pure_eq_ok] at ht
    obtain ⟨l, -, u, -, rfl⟩ := ht
    rw [hpieces]
    exact ⟨rfl, nofun⟩
  | among path vs =>
    obtain ⟨target, t, hfind, ht, hpieces⟩ := pieces_comparing h
    obtain ⟨-, us, hus, rfl⟩ := among_eq_ok_iff.mp ht
    rw [hpieces]
    refine ⟨?_, sized_chunks options us⟩
    rw [Filter.members, coerced_eq hfind, ← eq_map_of_mapM target.parameter_of_filterValue hus,
      Test.pieces, List.map_singleton, options.flatten_chunks]
  | itemIds ids =>
    rw [ofFilter] at h
    split at h
    · rename_i hnil
      simp only [pure_eq_ok, Prod.mk.injEq] at h
      rw [← h.1, Filter.members, if_pos hnil]
      exact ⟨rfl, nofun⟩
    · rename_i hne
      simp only [pure_eq_ok, Prod.mk.injEq] at h
      rw [← h.1, Filter.members, if_neg hne]
      have hpieces : (⟨some (.itemIds (options.chunks ids))⟩ : Predicate).pieces =
          [options.chunks (ids.map Value.id)] := by
        rw [options.chunks_map]
        rfl
      rw [hpieces]
      exact ⟨by rw [List.map_singleton, options.flatten_chunks], sized_chunks options _⟩
  | never =>
    simp only [ofFilter, pure_eq_ok, Prod.mk.injEq] at h
    rw [← h.1]
    exact ⟨rfl, nofun⟩

theorem pieces_ofFilters (filters : List Filter) {ms ms' : Mentions} {ps : List Predicate}
    (h : ofFilters schema options filters ms = .ok (ps, ms')) :
    (ps.flatMap pieces).map List.flatten = Filter.membersOfAll schema filters ∧
      Sized options.chunkSize (ps.flatMap pieces) := by
  cases filters with
  | nil =>
    simp only [ofFilters, pure_eq_ok, Prod.mk.injEq] at h
    rw [← h.1]
    exact ⟨rfl, nofun⟩
  | cons filter rest =>
    obtain ⟨p, ms₁, ps, hp, hps, rfl⟩ := ofFilters_cons_eq_ok_iff.mp h
    obtain ⟨hpieces, hsized⟩ := pieces_ofFilter filter hp
    obtain ⟨hpieces', hsized'⟩ := pieces_ofFilters rest hps
    rw [List.flatMap_cons, List.map_append, hpieces, hpieces', Filter.membersOfAll]
    exact ⟨rfl, hsized.append hsized'⟩

end

theorem lists_segments (p : Predicate) : Segment.Lists p.segments p.pieces.flatten := by
  obtain ⟨_ | c⟩ := p
  · exact .nil
  · exact c.lists_segments

/-- The lists of a predicate are its pieces, and each of their values has a place of its own. -/
theorem lists_of_sized {p : Predicate} {size : Nat} (hsized : Sized size p.pieces) :
    p.Lists size (p.pieces.map List.flatten) := by
  have hvalues : (Part.lists p.parts).map (fun places => places.map (p.params[·]?)) =
      p.pieces.flatten.map (List.map some) := p.lists_segments.values []
  refine ⟨⟨p.pieces, rfl, hvalues⟩, ?_, fun places hplaces => ?_⟩
  · exact List.Pairwise.sublist (p.lists_segments.places 0) List.pairwise_lt_range'
  · have hmem := List.mem_map_of_mem (f := fun places => places.map (p.params[·]?)) hplaces
    rw [hvalues] at hmem
    obtain ⟨vs, hvs, hlength⟩ := List.mem_map.mp hmem
    obtain ⟨chunks, hchunks, hvs⟩ := List.mem_flatten.mp hvs
    obtain ⟨hne, hle⟩ := hsized chunks hchunks vs hvs
    have hlength : vs.length = places.length := by simpa using congrArg List.length hlength
    rw [← hlength]
    exact ⟨List.length_pos_iff.mpr hne, hle⟩

theorem lists_ofFilter? {filter : Option Filter} {ms ms' : Mentions} {p : Predicate}
    (h : ofFilter? schema options filter ms = .ok (p, ms')) :
    p.Lists options.chunkSize (Filter.members? schema filter) := by
  cases filter with
  | none =>
    obtain ⟨rfl, rfl⟩ := Prod.mk.inj (Except.ok.inj h)
    exact lists_of_sized nofun
  | some filter =>
    obtain ⟨hpieces, hsized⟩ := pieces_ofFilter filter h
    rw [Filter.members?, ← hpieces]
    exact lists_of_sized hsized

end Predicate

end AspectQuery

import AspectQuery.Proofs.Statement.Rows
import Mathlib.Data.List.Dedup
import Mathlib.Data.List.Pairwise
import Mathlib.Order.Lattice
/-!
# Results of statements

The rows of FROM, JOIN and WHERE are put into groups, each of which gives one row of the result.
DISTINCT keeps one of equal rows. What no key of ORDER BY tells apart may come in any order, so that
a statement may have several results.
-/

set_option autoImplicit false

namespace AspectQuery

namespace Sql

/-- What stands in a row of a result. -/
inductive Cell where
  | value (v : Value)
  | count (n : Nat)
  deriving DecidableEq

/-- A row of a result, with the names of its outputs. -/
abbrev Line := List (Option String × Cell)

namespace Line

def cell? (l : Line) (name : String) : Option Cell := l.lookup (some name)

/-- The row as another statement sees it that selects from the result. -/
def record (l : Line) : Record := fun name =>
  match l.cell? name with
  | some (.value v) => v
  | some (.count n) => .integer (.ofNat n)
  | none => .null

end Line

/-- Rows of FROM and JOIN that become one row of the result. -/
abbrev Group := List Scope

namespace Group

/-- The value of a column that is the same in all rows of the group. -/
def value (g : Group) (c : Column) : Value := (g.head?.map fun σ => σ.cell c).getD .null

def count (g : Group) (c : Column) : Nat := g.countP fun σ => σ.cell c ≠ .null

theorem value_of_forall {g : Group} {c : Column} {v : Value} (hne : g ≠ [])
    (h : ∀ σ ∈ g, σ.cell c = v) : g.value c = v := by
  obtain ⟨σ, rest, rfl⟩ := List.exists_cons_of_ne_nil hne
  exact h σ List.mem_cons_self

end Group

namespace Expression

def isCount : Expression → Bool
  | .column _ => false
  | .count _ => true

def cell (g : Group) : Expression → Cell
  | .column c => .value (g.value c)
  | .count c => .count (g.count c)

end Expression

namespace Select

def line (s : Select) (g : Group) : Line :=
  s.outputs.map fun o => (o.aliasName, o.expression.cell g)

def groupKey (s : Select) (σ : Scope) : List Value := s.groupBy.map σ.cell

/-- GROUP BY puts rows together that agree in all its columns. Without it a count goes over all rows
at once, and any other row stays alone. -/
def groups (s : Select) (σs : List Scope) : List Group :=
  if s.groupBy.isEmpty then
    if s.outputs.any fun o => o.expression.isCount then [σs] else σs.map fun σ => [σ]
  else
    (σs.map s.groupKey).dedup.map fun key => σs.filter fun σ => s.groupKey σ = key

def page (s : Select) (lines : List Line) : List Line :=
  let rest := lines.drop (s.offset.elim 0 UInt64.toNat)
  s.limit.elim rest fun n => rest.take n.toNat

section

variable {s : Select} {σs : List Scope} {c : Column}

theorem page_of_none (hlimit : s.limit = none) (hoffset : s.offset = none) (lines : List Line) :
    s.page lines = lines := by
  rw [page, hlimit, hoffset]
  rfl

theorem groups_of_columns (hgroupBy : s.groupBy = [])
    (houtputs : ∀ o ∈ s.outputs, o.expression.isCount = false) :
    s.groups σs = σs.map fun σ => [σ] := by
  have hcount : (s.outputs.any fun o => o.expression.isCount) = false :=
    List.any_eq_false.mpr fun o ho => by simp [houtputs o ho]
  rw [groups, hgroupBy, hcount]
  rfl

theorem groups_by_column (hgroupBy : s.groupBy = [c]) :
    s.groups σs =
      (σs.map fun σ => σ.cell c).dedup.map fun v => σs.filter fun σ => σ.cell c = v := by
  have hkey : s.groupKey = (fun v => [v]) ∘ fun σ => σ.cell c := by
    funext σ
    rw [groupKey, hgroupBy]
    rfl
  have hdedup : (σs.map s.groupKey).dedup = (σs.map fun σ => σ.cell c).dedup.map fun v => [v] := by
    rw [hkey, ← List.map_map]
    exact List.dedup_map_of_injective (fun _ _ h => (List.cons.inj h).1) _
  rw [groups, hgroupBy, if_neg (by simp), hdedup, List.map_map]
  refine List.map_congr_left fun v _ => ?_
  simp [hkey]

/-- There is one group for each row. -/
theorem exists_distinct (s : Select) (gs : List Group) :
    ∃ kept : List Group, kept ⊆ gs ∧ (kept.map s.line).Nodup ∧
      ∀ g ∈ gs, s.line g ∈ kept.map s.line := by
  induction gs with
  | nil => exact ⟨[], by simp, by simp, by simp⟩
  | cons g gs ih =>
    obtain ⟨kept, hsubset, hnodup, hall⟩ := ih
    by_cases hg : s.line g ∈ kept.map s.line
    · exact ⟨kept, List.Subset.trans hsubset (List.subset_cons_self g gs), hnodup,
        List.forall_mem_cons.mpr ⟨hg, hall⟩⟩
    · refine ⟨g :: kept, List.cons_subset_cons g hsubset, List.nodup_cons.mpr ⟨hg, hnodup⟩, ?_⟩
      exact List.forall_mem_cons.mpr
        ⟨List.mem_cons_self, fun h hh => List.mem_cons_of_mem _ (hall h hh)⟩

end

end Select

section

variable [LinearOrder Value]

/-- One value may stand before another. -/
def OrderKey.le (k : OrderKey) (v w : Value) : Prop :=
  match k.direction with
  | some .descending => w ≤ v
  | _ => v ≤ w

/-- One group may stand before another. The first key with different values decides. -/
def Group.InOrder : List OrderKey → Group → Group → Prop
  | [], _, _ => True
  | k :: ks, g, h => k.le (g.value k.column) (h.value k.column) ∧
    (g.value k.column = h.value k.column → InOrder ks g h)

namespace OrderKey

variable (k : OrderKey) {u v w : Value}

protected theorem le_refl (v : Value) : k.le v v := by
  rcases k with ⟨_, _ | _ | _⟩ <;> exact le_refl v

protected theorem le_total (v w : Value) : k.le v w ∨ k.le w v := by
  rcases k with ⟨_, _ | _ | _⟩
  · exact le_total v w
  · exact le_total v w
  · exact le_total w v

protected theorem le_trans (huv : k.le u v) (hvw : k.le v w) : k.le u w := by
  rcases k with ⟨_, _ | _ | _⟩
  · exact le_trans huv hvw
  · exact le_trans huv hvw
  · exact le_trans hvw huv

protected theorem le_antisymm (hvw : k.le v w) (hwv : k.le w v) : v = w := by
  rcases k with ⟨_, _ | _ | _⟩
  · exact le_antisymm hvw hwv
  · exact le_antisymm hvw hwv
  · exact le_antisymm hwv hvw

end OrderKey

namespace Group

theorem inOrder_total (ks : List OrderKey) (g h : Group) : InOrder ks g h ∨ InOrder ks h g := by
  induction ks with
  | nil => exact .inl trivial
  | cons k ks ih =>
    by_cases heq : g.value k.column = h.value k.column
    · rcases ih with hgh | hhg
      · exact .inl ⟨heq ▸ k.le_refl _, fun _ => hgh⟩
      · exact .inr ⟨heq ▸ k.le_refl _, fun _ => hhg⟩
    · rcases k.le_total (g.value k.column) (h.value k.column) with hle | hle
      · exact .inl ⟨hle, fun h => absurd h heq⟩
      · exact .inr ⟨hle, fun h => absurd h.symm heq⟩

theorem inOrder_trans {ks : List OrderKey} {g h i : Group} (hgh : InOrder ks g h)
    (hhi : InOrder ks h i) : InOrder ks g i := by
  induction ks with
  | nil => trivial
  | cons k ks ih =>
    obtain ⟨hle, hrest⟩ := hgh
    obtain ⟨hle', hrest'⟩ := hhi
    refine ⟨k.le_trans hle hle', fun heq => ?_⟩
    -- Between equal values there are only values equal to them.
    have hmiddle : g.value k.column = h.value k.column := k.le_antisymm hle (heq ▸ hle')
    exact ih (hrest hmiddle) (hrest' (hmiddle.symm.trans heq))

/-- By a column whose values are all different, there is one order. -/
theorem pairwise_lt {gs : List Group} {c : Column}
    (h : gs.Pairwise (InOrder [{ column := c }])) (hnodup : (gs.map fun g => g.value c).Nodup) :
    (gs.map fun g => g.value c).Pairwise (· < ·) := by
  have hle : (gs.map fun g => g.value c).Pairwise (· ≤ ·) :=
    List.pairwise_map.mpr (h.imp fun hgh => hgh.1)
  exact (hle.and hnodup).imp fun h => lt_of_le_of_ne h.1 h.2

end Group

/-- An order in which the groups may be given. DISTINCT keeps one group for each row. -/
structure Select.Arranges (s : Select) (groups ordered : List Group) : Prop where
  all : s.distinct = false → ordered.Perm groups
  distinct : s.distinct = true → ordered ⊆ groups ∧ (ordered.map s.line).Nodup ∧
    ∀ g ∈ groups, s.line g ∈ ordered.map s.line
  sorted : ordered.Pairwise (Group.InOrder s.orderBy)

namespace Select

section

variable {s : Select} {σs : List Scope} {groups ordered : List Group} {c : Column}

theorem exists_sorted (ks : List OrderKey) (gs : List Group) :
    ∃ ordered : List Group, ordered.Perm gs ∧ ordered.Pairwise (Group.InOrder ks) := by
  classical
  have htrans : ∀ g h i : Group, decide (Group.InOrder ks g h) = true →
      decide (Group.InOrder ks h i) = true → decide (Group.InOrder ks g i) = true :=
    fun _ _ _ hgh hhi => decide_eq_true
      (Group.inOrder_trans (of_decide_eq_true hgh) (of_decide_eq_true hhi))
  have htotal : ∀ g h : Group,
      (decide (Group.InOrder ks g h) || decide (Group.InOrder ks h g)) = true :=
    fun g h => by simpa using Group.inOrder_total ks g h
  refine ⟨gs.mergeSort fun g h => Group.InOrder ks g h, List.mergeSort_perm .., ?_⟩
  exact (List.pairwise_mergeSort htrans htotal gs).imp fun h => of_decide_eq_true h

theorem exists_arranges (s : Select) (gs : List Group) : ∃ ordered, s.Arranges gs ordered := by
  cases hdistinct : s.distinct with
  | false =>
    obtain ⟨ordered, hperm, hsorted⟩ := exists_sorted s.orderBy gs
    exact ⟨ordered, fun _ => hperm, by simp [hdistinct], hsorted⟩
  | true =>
    obtain ⟨kept, hsubset, hnodup, hall⟩ := s.exists_distinct gs
    obtain ⟨ordered, hperm, hsorted⟩ := exists_sorted s.orderBy kept
    have hlines := hperm.map s.line
    refine ⟨ordered, by simp [hdistinct], fun _ => ⟨List.Subset.trans hperm.subset hsubset,
      hlines.nodup_iff.mpr hnodup, fun g hg => hlines.mem_iff.mpr (hall g hg)⟩, hsorted⟩

/-- Where rows are written from some data, DISTINCT keeps each of these once. -/
theorem Arranges.nodup_map {α : Type} (h : s.Arranges groups ordered)
    (hdistinct : s.distinct = true) (read : Group → α) {write : α → Line}
    (hwrite : Function.Injective write)
    (hline : ∀ g, s.line g = write (read g)) :
    (ordered.map read).Nodup ∧ (∀ a, a ∈ ordered.map read ↔ a ∈ groups.map read) ∧
      ordered.map s.line = (ordered.map read).map write := by
  obtain ⟨hsubset, hnodup, hall⟩ := h.distinct hdistinct
  have hlines : ordered.map s.line = (ordered.map read).map write := by
    rw [List.map_map]
    exact List.map_congr_left fun g _ => hline g
  refine ⟨.of_map write (hlines ▸ hnodup), fun a => ⟨fun ha => List.map_subset read hsubset ha,
    fun ha => ?_⟩, hlines⟩
  obtain ⟨g, hg, rfl⟩ := List.mem_map.mp ha
  obtain ⟨h, hh, heq⟩ := List.mem_map.mp (hall g hg)
  rw [hline, hline] at heq
  exact hwrite heq ▸ List.mem_map_of_mem hh

/-- GROUP BY a column gives one group for each of its values, with the rows that have it. -/
theorem Arranges.by_column (h : s.Arranges (s.groups σs) ordered) (hdistinct : s.distinct = false)
    (hgroupBy : s.groupBy = [c]) :
    (ordered.map fun g => g.value c).Nodup ∧
      (∀ v, v ∈ (ordered.map fun g => g.value c) ↔ v ∈ σs.map fun σ => σ.cell c) ∧
      ∀ g ∈ ordered, g = σs.filter fun σ => σ.cell c = g.value c := by
  have hperm := h.all hdistinct
  rw [groups_by_column hgroupBy] at hperm
  have hvalue : ∀ v ∈ (σs.map fun σ => σ.cell c).dedup,
      Group.value (σs.filter fun σ => σ.cell c = v) c = v := by
    intro v hv
    obtain ⟨σ, hσ, rfl⟩ := List.mem_map.mp (List.mem_dedup.mp hv)
    refine Group.value_of_forall (List.ne_nil_of_mem (List.mem_filter.mpr ⟨hσ, ?_⟩)) ?_
    · simp
    · intro τ hτ
      simpa using (List.mem_filter.mp hτ).2
  have hvalues := hperm.map fun g => g.value c
  simp only [List.map_map, Function.comp_def] at hvalues
  rw [List.map_congr_left hvalue, List.map_id'] at hvalues
  refine ⟨hvalues.nodup_iff.mpr (List.nodup_dedup _),
    fun v => hvalues.mem_iff.trans List.mem_dedup, fun g hg => ?_⟩
  obtain ⟨v, hv, rfl⟩ := List.mem_map.mp (hperm.mem_iff.mp hg)
  rw [hvalue v hv]

end

section

variable (ops : Operators) (db : Contents) (params : List Value)

/-- What a statement may give. A statement over another one has no condition of its own. -/
inductive Returns : Select → List Line → Prop
  | table {s : Select} {name aliasName : String} {σs : List Scope} {ordered : List Group} :
    s.source = some (.table name aliasName) →
    (⟨s, params⟩ : Statement).rows? ops db = some σs →
    s.Arranges (s.groups σs) ordered →
    Returns s (s.page (ordered.map s.line))
  | derived {s query : Select} {aliasName : String} {lines : List Line} {ordered : List Group} :
    s.source = some (.derived query aliasName) →
    s.condition = none →
    Returns query lines →
    s.Arranges (s.groups (lines.flatMap fun l => joined ops db s.joins [(aliasName, l.record)]))
      ordered →
    Returns s (s.page (ordered.map s.line))

end

section

variable {ops : Operators} {db : Contents} {params : List Value} {s query : Select}
  {aliasName : String} {lines : List Line}

theorem returns_table {name : String} (hsource : s.source = some (.table name aliasName)) :
    s.Returns ops db params lines ↔ ∃ σs ordered,
      (⟨s, params⟩ : Statement).rows? ops db = some σs ∧ s.Arranges (s.groups σs) ordered ∧
        lines = s.page (ordered.map s.line) := by
  constructor
  · rintro (⟨-, hrows, hordered⟩ | ⟨hsource', -⟩)
    · exact ⟨_, _, hrows, hordered, rfl⟩
    · simp [hsource] at hsource'
  · rintro ⟨σs, ordered, hrows, hordered, rfl⟩
    exact .table hsource hrows hordered

theorem returns_derived (hsource : s.source = some (.derived query aliasName))
    (hcondition : s.condition = none) (hjoins : s.joins = []) :
    s.Returns ops db params lines ↔ ∃ inner ordered, query.Returns ops db params inner ∧
      s.Arranges (s.groups (inner.map fun l => [(aliasName, l.record)])) ordered ∧
        lines = s.page (ordered.map s.line) := by
  have hscopes : ∀ inner : List Line,
      (inner.flatMap fun l => joined ops db s.joins [(aliasName, l.record)]) =
        inner.map fun l => [(aliasName, l.record)] := by
    intro inner
    rw [hjoins]
    exact (List.map_eq_flatMap ..).symm
  constructor
  · rintro (⟨hsource', -⟩ | ⟨hsource', -, hquery, hordered⟩)
    · simp [hsource] at hsource'
    · obtain ⟨rfl, rfl⟩ := Source.derived.inj (Option.some.inj (hsource.symm.trans hsource'))
      rw [hscopes] at hordered
      exact ⟨_, _, hquery, hordered, rfl⟩
  · rintro ⟨inner, ordered, hquery, hordered, rfl⟩
    exact .derived hsource hcondition hquery (hscopes inner ▸ hordered)

end

end Select

end

end Sql

end AspectQuery

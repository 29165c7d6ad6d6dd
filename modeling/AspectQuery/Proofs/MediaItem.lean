import AspectQuery.AttributePath
import AspectQuery.MediaItem
import AspectQuery.Proofs.ByName
/-!
# What media items hold

Values that are put into an item go to the aspects that it has, and the last value of a path stays.
The aspects and their attributes stand in ascending order.
-/

set_option autoImplicit false

namespace AspectQuery

namespace MediaItem

variable {item : MediaItem}

/-- What an item holds under a path. -/
def attribute? (item : MediaItem) (path : AttributePath) : Option AttributeValue :=
  (item.aspect? path.aspect).bind fun a => a.get? path.name

/-- Aspects and their attributes stand in ascending order, each once. -/
structure Ascending (item : MediaItem) : Prop where
  aspects : item.aspects.Ascending
  attributes : ∀ e ∈ item.aspects.entries, e.2.Ascending

def addAspect (item : MediaItem) (id : AspectId) : MediaItem :=
  { item with aspects := item.aspects.set id {} }

def addAspects (item : MediaItem) (ids : List AspectId) : MediaItem := ids.foldl addAspect item

/-- Puts in a value under its path. -/
def put (item : MediaItem) (w : AttributePath × AttributeValue) : MediaItem :=
  item.setAttribute w.1.aspect w.1.name w.2

def putAll (item : MediaItem) (ws : List (AttributePath × AttributeValue)) : MediaItem :=
  ws.foldl put item

theorem hasAspect_addAspect (id a : AspectId) :
    (item.addAspect id).hasAspect a ↔ a = id ∨ item.hasAspect a :=
  item.aspects.contains_set id a {}

theorem attribute?_addAspect {path : AttributePath} (h : item.attribute? path = none)
    (id : AspectId) : (item.addAspect id).attribute? path = none := by
  unfold attribute? aspect? addAspect
  dsimp only
  rw [ByName.get?_set]
  split
  · rfl
  · exact h

theorem ascending_addAspect (h : item.Ascending) (id : AspectId) :
    (item.addAspect id).Ascending := by
  refine ⟨ByName.ascending_set h.aspects, fun e he => ?_⟩
  rcases ByName.mem_set he with rfl | he
  · exact ByName.ascending_empty
  · exact h.attributes e he

theorem id_addAspects (ids : List AspectId) : (item.addAspects ids).id = item.id :=
  List.foldlRecOn (motive := fun other : MediaItem => other.id = item.id) ids addAspect rfl
    fun _ h _ _ => h

theorem hasAspect_addAspects (ids : List AspectId) (a : AspectId) :
    (item.addAspects ids).hasAspect a ↔ a ∈ ids ∨ item.hasAspect a := by
  induction ids generalizing item with
  | nil => simp [addAspects]
  | cons id rest ih =>
    have hrest : ((item.addAspect id).addAspects rest).hasAspect a ↔
        a ∈ rest ∨ (item.addAspect id).hasAspect a := ih
    rw [hasAspect_addAspect] at hrest
    rw [List.mem_cons, or_assoc, or_left_comm]
    exact hrest

theorem attribute?_addAspects {path : AttributePath} (h : item.attribute? path = none)
    (ids : List AspectId) : (item.addAspects ids).attribute? path = none :=
  List.foldlRecOn (motive := fun other : MediaItem => other.attribute? path = none) ids addAspect h
    fun _ hother id _ => attribute?_addAspect hother id

theorem ascending_addAspects (h : item.Ascending) (ids : List AspectId) :
    (item.addAspects ids).Ascending :=
  List.foldlRecOn (motive := Ascending) ids addAspect h fun _ hother id _ =>
    ascending_addAspect hother id

theorem id_put (w : AttributePath × AttributeValue) : (item.put w).id = item.id := by
  unfold put setAttribute
  split <;> rfl

theorem hasAspect_put (w : AttributePath × AttributeValue) (a : AspectId) :
    (item.put w).hasAspect a = item.hasAspect a := by
  unfold put setAttribute
  split
  · rfl
  · rename_i vs hvs
    unfold hasAspect ByName.contains
    dsimp only
    rw [ByName.get?_set]
    split
    · rename_i ha
      rw [ha, show item.aspects.get? w.1.aspect = some vs from hvs]
      rfl
    · rfl

theorem aspect?_of_not_hasAspect {a : AspectId} (h : item.hasAspect a = false) :
    item.aspect? a = none := by
  simpa [hasAspect, ByName.contains, aspect?] using h

theorem attribute?_of_not_hasAspect {path : AttributePath}
    (h : item.hasAspect path.aspect = false) : item.attribute? path = none := by
  rw [attribute?, aspect?_of_not_hasAspect h, Option.bind_none]

theorem put_of_not_hasAspect {w : AttributePath × AttributeValue}
    (h : item.hasAspect w.1.aspect = false) : item.put w = item := by
  simp only [put, setAttribute, aspect?_of_not_hasAspect h]

theorem attribute?_put {w : AttributePath × AttributeValue} (h : item.hasAspect w.1.aspect)
    (path : AttributePath) :
    (item.put w).attribute? path = if path = w.1 then some w.2 else item.attribute? path := by
  obtain ⟨vs, hvs⟩ := Option.isSome_iff_exists.mp h
  have hput : item.put w =
      { item with aspects := item.aspects.set w.1.aspect (vs.set w.1.name w.2) } := by
    simp only [put, setAttribute, show item.aspect? w.1.aspect = some vs from hvs]
  unfold attribute? aspect?
  rw [hput]
  dsimp only
  rw [ByName.get?_set]
  obtain ⟨aspect, name⟩ := path
  by_cases haspect : aspect = w.1.aspect
  · rw [if_pos haspect, haspect, hvs, Option.bind_some, Option.bind_some, ByName.get?_set]
    by_cases hname : name = w.1.name
    · rw [if_pos hname, if_pos (by rw [hname])]
    · rw [if_neg hname, if_neg (fun heq => hname (congrArg AttributePath.name heq))]
  · rw [if_neg haspect, if_neg (fun heq => haspect (congrArg AttributePath.aspect heq))]

theorem ascending_put (h : item.Ascending) (w : AttributePath × AttributeValue) :
    (item.put w).Ascending := by
  unfold put setAttribute
  split
  · exact h
  · rename_i vs hvs
    refine ⟨ByName.ascending_set h.aspects, fun e he => ?_⟩
    rcases ByName.mem_set he with rfl | he
    · exact ByName.ascending_set (h.attributes _ (ByName.mem_of_get? hvs))
    · exact h.attributes e he

theorem putAll_append (ws ws' : List (AttributePath × AttributeValue)) :
    item.putAll (ws ++ ws') = (item.putAll ws).putAll ws' := List.foldl_append

theorem id_putAll (ws : List (AttributePath × AttributeValue)) :
    (item.putAll ws).id = item.id :=
  List.foldlRecOn (motive := fun other : MediaItem => other.id = item.id) ws put rfl
    fun _ h w _ => (id_put w).trans h

theorem hasAspect_putAll (ws : List (AttributePath × AttributeValue)) (a : AspectId) :
    (item.putAll ws).hasAspect a = item.hasAspect a :=
  List.foldlRecOn (motive := fun other : MediaItem => other.hasAspect a = item.hasAspect a) ws put
    rfl fun _ h w _ => (hasAspect_put w a).trans h

theorem ascending_putAll (h : item.Ascending) (ws : List (AttributePath × AttributeValue)) :
    (item.putAll ws).Ascending :=
  List.foldlRecOn (motive := Ascending) ws put h fun _ hother w _ => ascending_put hother w

/-- Of all values that are put in under a path, the last one stays. -/
theorem attribute?_putAll (ws : List (AttributePath × AttributeValue)) (path : AttributePath)
    (h : item.hasAspect path.aspect) :
    (item.putAll ws).attribute? path = (ws.reverse.lookup path).or (item.attribute? path) := by
  induction ws generalizing item with
  | nil => rfl
  | cons w rest ih =>
    have hrest := ih ((hasAspect_put w path.aspect).trans h)
    rw [show item.putAll (w :: rest) = (item.put w).putAll rest from rfl, hrest,
      List.reverse_cons, List.lookup_append, Option.or_assoc]
    congr 1
    by_cases hpath : path = w.1
    · rw [attribute?_put (hpath ▸ h), if_pos hpath, List.lookup_cons, hpath, beq_self_eq_true]
      rfl
    · rw [List.lookup_cons, beq_false_of_ne hpath]
      by_cases haspect : item.hasAspect w.1.aspect
      · rw [attribute?_put haspect, if_neg hpath]
        rfl
      · rw [put_of_not_hasAspect (by simpa using haspect)]
        rfl

theorem isSome_attribute?_putAll {path : AttributePath} (h : item.hasAspect path.aspect)
    (hnone : item.attribute? path = none) (ws : List (AttributePath × AttributeValue)) :
    ((item.putAll ws).attribute? path).isSome ↔ ∃ w ∈ ws, w.1 = path := by
  rw [attribute?_putAll ws path h, hnone, Option.or_none, Option.isSome_iff_ne_none, ne_eq,
    List.lookup_eq_none_iff]
  constructor
  · intro hsome
    refine Classical.byContradiction fun hall => hsome fun w hw => ?_
    simpa using fun heq : path = w.1 => hall ⟨w, List.mem_reverse.mp hw, heq.symm⟩
  · rintro ⟨w, hw, rfl⟩ hall
    simpa using hall w (List.mem_reverse.mpr hw)

theorem attribute?_putAll_last {w : AttributePath × AttributeValue} (h : item.hasAspect w.1.aspect)
    (before : List (AttributePath × AttributeValue))
    {after : List (AttributePath × AttributeValue)} (hafter : ∀ w' ∈ after, w'.1 ≠ w.1) :
    (item.putAll (before ++ w :: after)).attribute? w.1 = some w.2 := by
  have hnone : after.reverse.lookup w.1 = none := by
    refine List.lookup_eq_none_iff.mpr fun w' hw' => ?_
    simpa using Ne.symm (hafter w' (List.mem_reverse.mp hw'))
  rw [attribute?_putAll _ _ h, List.reverse_append, List.reverse_cons, List.append_assoc,
    List.lookup_append, hnone, Option.none_or, List.cons_append, List.lookup_cons_self,
    Option.some_or]

end MediaItem

end AspectQuery

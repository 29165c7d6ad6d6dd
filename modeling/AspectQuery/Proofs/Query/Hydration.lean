import AspectQuery.Proofs.MediaItem
import AspectQuery.Proofs.Outcome
import AspectQuery.Query.Hydration
import Mathlib.Data.List.Forall2
/-!
# Items are what their rows say

The rows of a query are read as follows. Each item comes from the first row with its id, which shows
the aspects of the item and the values of its bounded attributes. The values of a collection are
those of all rows with the id of the item in the statement of that collection.
-/

set_option autoImplicit false

namespace AspectQuery

theorem forall₂_of_mapM {ε α β : Type} {f : α → Except ε β} {xs : List α} {ys : List β} :
    xs.mapM f = .ok ys ↔ List.Forall₂ (fun x y => f x = .ok y) xs ys := by
  induction xs generalizing ys with
  | nil => rw [List.forall₂_nil_left_iff, List.mapM_nil, pure_eq_ok, eq_comm]
  | cons x xs ih =>
    rw [mapM_cons_eq_ok, List.forall₂_cons_left_iff]
    simp only [ih, eq_comm, exists_and_left]

namespace Row

variable {r : Row} {column : String}

/-- The value in a column has a counterpart in a type. -/
def Reads (r : Row) (column : String) (type : ValueType) (v : Value) : Prop :=
  ∃ w, r.get? column = some w ∧ w.coerce type = .ok v

theorem Reads.unique {type : ValueType} {v w : Value} (h : r.Reads column type v)
    (h' : r.Reads column type w) : v = w := by
  obtain ⟨a, ha, hv⟩ := h
  obtain ⟨b, hb, hw⟩ := h'
  obtain rfl := Option.some.inj (ha.symm.trans hb)
  exact Except.ok.inj (hv.symm.trans hw)

/-- The value in a column is there and is not null. -/
def shows (r : Row) (column : String) : Bool := (r.get? column).any fun v => !v.isNull

theorem cell_eq_ok {v : Value} : r.cell column = .ok v ↔ r.get? column = some v := by
  rw [cell, mapError_eq_ok, require]
  cases r.get? column <;> simp

theorem itemId_eq_ok {id : ItemId} :
    r.itemId column = .ok id ↔ r.Reads column .id (.id id) := by
  simp only [itemId, Reads, bind_eq_ok, cell_eq_ok]
  refine exists_congr fun w => and_congr_right fun _ => ?_
  split <;> simp_all

theorem attributeValue_eq_ok {target : Attribute} {v : Value} :
    r.attributeValue target column = .ok v ↔ r.Reads column target.valueType v := by
  simp only [attributeValue, Reads, bind_eq_ok, cell_eq_ok]
  refine exists_congr fun w => and_congr_right fun _ => ?_
  split <;> simp_all

end Row

/-- A value of a collection, with the item that has it. -/
def CorrelatedStatement.itemValue (s : CorrelatedStatement) (target : Attribute) (row : Row) :
    Except QueryError (ItemId × Value) := do
  let id ← row.itemId s.itemId
  return (id, ← row.attributeValue target s.value)

theorem CorrelatedStatement.itemValue_eq_ok {s : CorrelatedStatement} {target : Attribute}
    {row : Row} {v : ItemId × Value} : s.itemValue target row = .ok v ↔
      row.Reads s.itemId .id (.id v.1) ∧ row.Reads s.value target.valueType v.2 := by
  simp only [itemValue, bind_eq_ok, pure_eq_ok, Row.itemId_eq_ok, Row.attributeValue_eq_ok]
  constructor
  · rintro ⟨id, hid, w, hw, rfl⟩
    exact ⟨hid, hw⟩
  · intro h
    exact ⟨v.1, h.1, v.2, h.2, rfl⟩

/-- The id that a primary row has. -/
def ItemStatement.identify (s : ItemStatement) (row : Row) : Except QueryError (ItemId × Row) := do
  return (← row.itemId s.itemId, row)

theorem ItemStatement.identify_eq_ok {s : ItemStatement} {row : Row} {e : ItemId × Row} :
    s.identify row = .ok e ↔ row.Reads s.itemId .id (.id e.1) ∧ e.2 = row := by
  simp only [identify, bind_eq_ok, pure_eq_ok, Row.itemId_eq_ok]
  constructor
  · rintro ⟨id, hid, rfl⟩
    exact ⟨hid, rfl⟩
  · rintro ⟨hid, rfl⟩
    exact ⟨e.1, hid, rfl⟩

theorem ItemStatement.map_snd_of_identify {s : ItemStatement} {rows : List Row}
    {es : List (ItemId × Row)} (h : rows.mapM s.identify = .ok es) : es.map Prod.snd = rows :=
  (map_of_mapM (fun _ _ he => (identify_eq_ok.mp he).2) h).trans (List.map_id' rows)

/-- The aspects that a row shows. -/
def ItemStatement.shown (s : ItemStatement) (row : Row) : List AspectId :=
  (s.presence.filter fun e => row.shows e.2).map Prod.fst

namespace ItemQuery

/-- A selected collection with its statement and the rows of this. -/
abbrev CollectionAnswer := Mention × CorrelatedStatement × List Row

/-- The values of the rows of a collection. -/
def collectionValue (e : CollectionAnswer) : Except QueryError (Mention × ItemValues) := do
  return (e.1, ← ItemValues.ofRows e.1.target e.2.1 e.2.2)

theorem collectValues_eq_mapM (ms : List Mention) (ss : List CorrelatedStatement)
    (results : List (List Row)) :
    collectValues ms ss results = (ms.zip (ss.zip results)).mapM collectionValue := by
  fun_induction collectValues ms ss results with
  | case1 m ms s ss rows results ih =>
    rw [ih, List.zip_cons_cons, List.zip_cons_cons, List.mapM_cons]
    simp only [collectionValue, bind_assoc, pure_bind]
  | case2 ms ss results h =>
    -- One of the lists has come to its end.
    have hnil : ms.zip (ss.zip results) = [] := by
      cases ms with
      | nil => rfl
      | cons m ms =>
        cases ss with
        | nil => rfl
        | cons s ss =>
          cases results with
          | nil => rfl
          | cons rows results => exact absurd rfl (h m ms s ss rows results rfl rfl)
    rw [hnil]
    rfl

theorem presentAspects_eq_ok {row : Row} {presence : List (AspectId × String)}
    {item item' : MediaItem} : presentAspects row presence item = .ok item' ↔
      (∀ e ∈ presence, ∃ v, row.get? e.2 = some v) ∧
        item' = item.addAspects ((presence.filter fun e => row.shows e.2).map Prod.fst) := by
  induction presence generalizing item with
  | nil =>
    rw [presentAspects, List.foldlM_nil, pure_eq_ok, eq_comm]
    simp [MediaItem.addAspects]
  | cons e rest ih =>
    have hstep : ∀ v, row.get? e.2 = some v →
        (if v.isNull then item else item.addAspect e.1).addAspects
            ((rest.filter fun e => row.shows e.2).map Prod.fst) =
          item.addAspects (((e :: rest).filter fun e => row.shows e.2).map Prod.fst) := by
      intro v hv
      cases hnull : v.isNull <;> simp [Row.shows, hv, hnull, MediaItem.addAspects]
    unfold presentAspects at ih ⊢
    rw [List.foldlM_cons]
    simp only [bind_eq_ok, Row.cell_eq_ok, pure_eq_ok, ih, List.forall_mem_cons]
    constructor
    · rintro ⟨_, ⟨v, hv, rfl⟩, hrest, rfl⟩
      exact ⟨⟨⟨v, hv⟩, hrest⟩, hstep v hv⟩
    · rintro ⟨⟨⟨v, hv⟩, hrest⟩, rfl⟩
      exact ⟨_, ⟨v, hv, rfl⟩, hrest, (hstep v hv).symm⟩

/-- The value that a row has for a bounded attribute. -/
def mainValue (row : Row) (attributes : List (Nat × String)) (m : Mention) :
    Except QueryError (AttributePath × AttributeValue) := do
  let v ← row.attributeValue m.target ((attributes.lookup m.index).getD "")
  return (m.target.path, .single v)

theorem loadMain_all_eq_ok {row : Row} {attributes : List (Nat × String)} {main : List Mention}
    (hmain : ∀ m ∈ main, (attributes.lookup m.index).isSome) {item item' : MediaItem} :
    main.foldlM (loadMain row attributes) item = .ok item' ↔
      ∃ ws, (main.filter fun m => item.hasAspect m.target.aspect).mapM
        (mainValue row attributes) = .ok ws ∧ item' = item.putAll ws := by
  induction main generalizing item with
  | nil =>
    rw [List.foldlM_nil, List.filter_nil, List.mapM_nil, pure_eq_ok]
    simp only [pure_eq_ok, exists_eq_left', MediaItem.putAll, List.foldl_nil]
    exact eq_comm
  | cons m rest ih =>
    have hrest : ∀ m ∈ rest, (attributes.lookup m.index).isSome := fun m' hm' =>
      hmain m' (List.mem_cons_of_mem m hm')
    obtain ⟨a, ha⟩ := Option.isSome_iff_exists.mp (hmain m List.mem_cons_self)
    rw [List.foldlM_cons, bind_eq_ok]
    by_cases hm : item.hasAspect m.target.aspect
    · have hload : ∀ next, loadMain row attributes item m = .ok next ↔
          ∃ w, mainValue row attributes m = .ok w ∧ next = item.put w := by
        intro next
        simp only [loadMain, if_pos hm, mainValue, ha, Option.getD_some, bind_eq_ok, pure_eq_ok]
        constructor
        · rintro ⟨v, hv, rfl⟩
          exact ⟨_, ⟨v, hv, rfl⟩, rfl⟩
        · rintro ⟨_, ⟨v, hv, rfl⟩, rfl⟩
          exact ⟨v, hv, rfl⟩
      rw [List.filter_cons_of_pos (by simpa using hm)]
      simp only [hload, mapM_cons_eq_ok]
      constructor
      · rintro ⟨_, ⟨w, hw, rfl⟩, hfold⟩
        obtain ⟨ws, hws, rfl⟩ := (ih hrest).mp hfold
        -- No value adds an aspect, so the rest is filtered by those of the item at the start.
        simp only [MediaItem.hasAspect_put] at hws
        exact ⟨w :: ws, ⟨w, hw, ws, hws, rfl⟩, rfl⟩
      · rintro ⟨_, ⟨w, hw, ws, hws, rfl⟩, rfl⟩
        refine ⟨_, ⟨w, hw, rfl⟩, (ih hrest).mpr ⟨ws, ?_, rfl⟩⟩
        simpa only [MediaItem.hasAspect_put] using hws
    · rw [List.filter_cons_of_neg (by simpa using hm)]
      simp only [loadMain, if_neg hm, pure_eq_ok, exists_eq_left', ih hrest]

/-- What goes into the collections of an item. -/
def collectionEntries (values : List (Mention × ItemValues)) (id : ItemId) :
    List (AttributePath × AttributeValue) :=
  values.map fun e => (e.1.target.path, .collection (e.2.ofItem id))

theorem foldl_loadCollection (values : List (Mention × ItemValues)) (item : MediaItem) :
    values.foldl (fun item (m, vs) => loadCollection item m vs) item =
      item.putAll (collectionEntries values item.id) := by
  induction values generalizing item with
  | nil => rfl
  | cons e rest ih =>
    obtain ⟨m, vs⟩ := e
    have hload : loadCollection item m vs =
        item.put (m.target.path, .collection (vs.ofItem item.id)) := rfl
    rw [List.foldl_cons, ih]
    dsimp only
    rw [hload, MediaItem.id_put]
    rfl

/-- The item of a row: its aspects are those that the row shows, and the values of the row and of
the collections are put into them. -/
theorem hydrateRow_eq_ok {s : ItemStatement} {main : List Mention}
    (hmain : ∀ m ∈ main, (s.attributes.lookup m.index).isSome)
    {values : List (Mention × ItemValues)} {id : ItemId} {row : Row} {item : MediaItem} :
    hydrateRow s main values id row = .ok item ↔
      (∀ e ∈ s.presence, ∃ v, row.get? e.2 = some v) ∧
      ∃ ws, (main.filter fun m => m.target.aspect ∈ s.shown row).mapM
          (mainValue row s.attributes) = .ok ws ∧
        item = (({ id } : MediaItem).addAspects (s.shown row)).putAll
          (ws ++ collectionEntries values id) := by
  have haspect : ∀ a, (({ id } : MediaItem).addAspects (s.shown row)).hasAspect a =
      decide (a ∈ s.shown row) := by
    intro a
    rw [Bool.eq_iff_iff, MediaItem.hasAspect_addAspects, decide_eq_true_iff]
    exact or_iff_left nofun
  have hpresent : ∀ next, presentAspects row s.presence { id } = .ok next ↔
      (∀ e ∈ s.presence, ∃ v, row.get? e.2 = some v) ∧
        next = ({ id } : MediaItem).addAspects (s.shown row) := fun _ => presentAspects_eq_ok
  simp only [hydrateRow, bind_eq_ok, hpresent, loadMain_all_eq_ok hmain, pure_eq_ok,
    foldl_loadCollection]
  constructor
  · rintro ⟨_, ⟨hpresence, rfl⟩, _, ⟨ws, hws, rfl⟩, rfl⟩
    refine ⟨hpresence, ws, ?_, ?_⟩
    · simpa only [← haspect] using hws
    · rw [MediaItem.id_putAll, MediaItem.id_addAspects, MediaItem.putAll_append]
  · rintro ⟨hpresence, ws, hws, rfl⟩
    refine ⟨_, ⟨hpresence, rfl⟩, _, ⟨ws, ?_, rfl⟩, ?_⟩
    · simpa only [← haspect] using hws
    · rw [MediaItem.id_putAll, MediaItem.id_addAspects, MediaItem.putAll_append]

/-- The rows of each new item, of which the first one counts. -/
def firstRows : List ItemId → List (ItemId × Row) → List (ItemId × Row)
  | _, [] => []
  | seen, e :: rest =>
    if e.1 ∈ seen then firstRows seen rest else e :: firstRows (e.1 :: seen) rest

theorem map_firstRows (seen : List ItemId) (es : List (ItemId × Row)) :
    (firstRows seen es).map Prod.fst =
      ((es.map Prod.fst).filter fun id => id ∉ seen).eraseDups := by
  induction es generalizing seen with
  | nil => rfl
  | cons e rest ih =>
    unfold firstRows
    split
    · rename_i hseen
      rw [ih, List.map_cons, List.filter_cons_of_neg (by simpa using hseen)]
    · rename_i hseen
      rw [List.map_cons, ih, List.map_cons, List.filter_cons_of_pos (by simpa using hseen),
        List.eraseDups_cons, List.filter_filter]
      simp [beq_eq_decide]

theorem mem_firstRows {seen : List ItemId} {es : List (ItemId × Row)} {e : ItemId × Row} :
    e ∈ firstRows seen es ↔ e.1 ∉ seen ∧
      ∃ before after, es = before ++ e :: after ∧ ∀ e' ∈ before, e'.1 ≠ e.1 := by
  induction es generalizing seen with
  | nil => simp [firstRows]
  | cons d rest ih =>
    have hsplit : (∃ before after, d :: rest = before ++ e :: after ∧ ∀ e' ∈ before, e'.1 ≠ e.1) ↔
        d = e ∨ d.1 ≠ e.1 ∧
          ∃ before after, rest = before ++ e :: after ∧ ∀ e' ∈ before, e'.1 ≠ e.1 := by
      constructor
      · rintro ⟨_ | ⟨b, before⟩, after, heq, hbefore⟩
        · exact .inl (List.cons.inj heq).1
        · obtain ⟨rfl, rfl⟩ := List.cons.inj heq
          exact .inr ⟨hbefore d List.mem_cons_self, before, after, rfl, fun e' he' =>
            hbefore e' (List.mem_cons_of_mem d he')⟩
      · rintro (rfl | ⟨hd, before, after, rfl, hbefore⟩)
        · exact ⟨[], rest, rfl, by simp⟩
        · exact ⟨d :: before, after, rfl, List.forall_mem_cons.mpr ⟨hd, hbefore⟩⟩
    rw [hsplit]
    unfold firstRows
    split
    · rename_i hseen
      rw [ih]
      constructor
      · rintro ⟨he, hrest⟩
        exact ⟨he, .inr ⟨fun heq => he (heq ▸ hseen), hrest⟩⟩
      · rintro ⟨he, rfl | ⟨-, hrest⟩⟩
        · exact absurd hseen he
        · exact ⟨he, hrest⟩
    · rename_i hseen
      rw [List.mem_cons, ih, List.mem_cons, not_or]
      constructor
      · rintro (rfl | ⟨⟨hd, he⟩, hrest⟩)
        · exact ⟨hseen, .inl rfl⟩
        · exact ⟨he, .inr ⟨Ne.symm hd, hrest⟩⟩
      · rintro ⟨he, rfl | ⟨hd, hrest⟩⟩
        · exact .inl rfl
        · exact .inr ⟨⟨Ne.symm hd, he⟩, hrest⟩

/-- The items of rows are those of the first rows. -/
theorem hydrateRows_eq_ok {s : ItemStatement} {main : List Mention}
    {values : List (Mention × ItemValues)} {seen : List ItemId} {rows : List Row}
    {items : List MediaItem} : hydrateRows s main values seen rows = .ok items ↔
      ∃ es, rows.mapM s.identify = .ok es ∧
        (firstRows seen es).mapM (fun e => hydrateRow s main values e.1 e.2) = .ok items := by
  induction rows generalizing seen items with
  | nil =>
    rw [hydrateRows, List.mapM_nil]
    simp only [pure_eq_ok, exists_eq_left', firstRows, List.mapM_nil]
  | cons row rest ih =>
    unfold hydrateRows
    simp only [mapM_cons_eq_ok, ItemStatement.identify, bind_eq_ok, pure_eq_ok]
    constructor
    · rintro ⟨id, hid, h⟩
      split at h
      · rename_i hseen
        obtain ⟨es, hes, hitems⟩ := ih.mp h
        refine ⟨_, ⟨_, ⟨id, hid, rfl⟩, es, hes, rfl⟩, ?_⟩
        simpa only [firstRows, if_pos hseen] using hitems
      · rename_i hseen
        simp only [bind_eq_ok, pure_eq_ok] at h
        obtain ⟨item, hitem, others, hothers, rfl⟩ := h
        obtain ⟨es, hes, hitems⟩ := ih.mp hothers
        refine ⟨_, ⟨_, ⟨id, hid, rfl⟩, es, hes, rfl⟩, ?_⟩
        rw [firstRows, if_neg hseen]
        exact mapM_cons_eq_ok.mpr ⟨item, hitem, others, hitems, rfl⟩
    · rintro ⟨_, ⟨_, ⟨id, hid, rfl⟩, es, hes, rfl⟩, hitems⟩
      refine ⟨id, hid, ?_⟩
      split
      · rename_i hseen
        simp only [firstRows, if_pos hseen] at hitems
        exact ih.mpr ⟨es, hes, hitems⟩
      · rename_i hseen
        simp only [firstRows, if_neg hseen] at hitems
        obtain ⟨item, hitem, others, hothers, rfl⟩ := mapM_cons_eq_ok.mp hitems
        exact bind_eq_ok.mpr ⟨item, hitem, bind_eq_ok.mpr ⟨others, ih.mpr ⟨es, hes, hothers⟩, rfl⟩⟩

end ItemQuery

end AspectQuery

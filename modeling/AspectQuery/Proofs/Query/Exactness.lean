import AspectQuery.Proofs.Query.Building
import AspectQuery.Proofs.Query.Requested
import AspectQuery.Proofs.Query.Session
import AspectQuery.Proofs.Statement.Outputs
/-!
# Exactness of hydration

The items of a query are determined by the rows of its statements: which items there are, which
aspects each of them has, and the value of every selected attribute. It depends on the same rows
whether all of this can be read.
-/

set_option autoImplicit false

namespace AspectQuery

/-- The first of the rows with an id. -/
def ItemStatement.FirstRow (s : ItemStatement) (rows : List Row) (id : ItemId) (row : Row) : Prop :=
  ∃ before after, rows = before ++ row :: after ∧ row.Reads s.itemId .id (.id id) ∧
    ∀ r ∈ before, ¬r.Reads s.itemId .id (.id id)

namespace ItemQuery

/-- An item holds what its first row says, and its rows of the collections. -/
structure Hydrates (main collections : List Mention) (s : ItemStatement)
    (answers : List CollectionAnswer) (row : Row) (item : MediaItem) : Prop where
  ascending : item.Ascending
  aspects : ∀ a, item.hasAspect a ↔ a ∈ s.shown row
  attributes : ∀ path, (item.attribute? path).isSome ↔
    item.hasAspect path.aspect ∧ ∃ m ∈ main ++ collections, m.target.path = path
  /-- Of an attribute that is selected several times, the last mention counts. -/
  main : ∀ before m after, main = before ++ m :: after →
    (∀ m' ∈ after, m'.target.path ≠ m.target.path) → item.hasAspect m.target.aspect →
    ∃ column v, s.attributes.lookup m.index = some column ∧
      row.Reads column m.target.valueType v ∧ item.attribute? m.target.path = some (.single v)
  collections : ∀ before e after, answers = before ++ e :: after →
    (∀ e' ∈ after, e'.1.target.path ≠ e.1.target.path) → item.hasAspect e.1.target.aspect →
    ∃ vs : List (ItemId × Value), List.Forall₂ (fun row v => row.Reads e.2.1.itemId .id (.id v.1) ∧
        row.Reads e.2.1.value e.1.target.valueType v.2) e.2.2 vs ∧
      item.attribute? e.1.target.path =
        some (.collection ((vs.filter fun v => v.1 = item.id).map Prod.snd))

section

variable {main collections : List Mention} {s : ItemStatement} {answers : List CollectionAnswer}
  {row : Row} {item : MediaItem} {id : ItemId} {values : List (Mention × ItemValues)}

theorem mainValue_eq_ok {attributes : List (Nat × String)} {m : Mention}
    (hm : (attributes.lookup m.index).isSome) {w : AttributePath × AttributeValue}
    (h : mainValue row attributes m = .ok w) :
    w.1 = m.target.path ∧ ∃ column v, attributes.lookup m.index = some column ∧
      row.Reads column m.target.valueType v ∧ w.2 = .single v := by
  obtain ⟨column, hcolumn⟩ := Option.isSome_iff_exists.mp hm
  simp only [mainValue, hcolumn, Option.getD_some, bind_eq_ok, pure_eq_ok,
    Row.attributeValue_eq_ok] at h
  obtain ⟨v, hv, rfl⟩ := h
  exact ⟨rfl, column, v, hcolumn, hv, rfl⟩

theorem collectionValue_eq_ok {e : CollectionAnswer} {v : Mention × ItemValues}
    (h : collectionValue e = .ok v) : v.1 = e.1 ∧
      List.Forall₂ (fun row v => row.Reads e.2.1.itemId .id (.id v.1) ∧
        row.Reads e.2.1.value e.1.target.valueType v.2) e.2.2 v.2 := by
  obtain ⟨vs, hvs, h⟩ := bind_eq_ok.mp h
  obtain rfl := pure_eq_ok.mp h
  refine ⟨rfl, (forall₂_of_mapM.mp hvs).imp fun row v hv => ?_⟩
  exact CorrelatedStatement.itemValue_eq_ok.mp hv

/-- The paths of the values that are put into an item. -/
theorem exists_path_iff {p : Mention → Bool} {ws : List (AttributePath × AttributeValue)}
    (hmain : ∀ m ∈ main, (s.attributes.lookup m.index).isSome)
    (hanswers : answers.map Prod.fst = collections)
    (hws : (main.filter p).mapM (mainValue row s.attributes) = .ok ws)
    (hvalues : answers.mapM collectionValue = .ok values) {path : AttributePath}
    (hpath : ∀ m ∈ main, m.target.path = path → p m) :
    (∃ w ∈ ws ++ collectionEntries values id, w.1 = path) ↔
      ∃ m ∈ main ++ collections, m.target.path = path := by
  constructor
  · rintro ⟨w, hw, rfl⟩
    rcases List.mem_append.mp hw with hw | hw
    · obtain ⟨m, hm, hmw⟩ := mem_of_mapM hws hw
      have hm' := List.mem_of_mem_filter hm
      exact ⟨m, List.mem_append_left _ hm', (mainValue_eq_ok (hmain m hm') hmw).1.symm⟩
    · obtain ⟨v, hv, rfl⟩ := List.mem_map.mp hw
      obtain ⟨e, he, hev⟩ := mem_of_mapM hvalues hv
      refine ⟨e.1, List.mem_append_right _ (hanswers ▸ List.mem_map_of_mem he), ?_⟩
      rw [(collectionValue_eq_ok hev).1]
  · rintro ⟨m, hm, hpm⟩
    rcases List.mem_append.mp hm with hm | hm
    · obtain ⟨w, hw, hmw⟩ := exists_of_mapM hws (List.mem_filter.mpr ⟨hm, hpath m hm hpm⟩)
      exact ⟨w, List.mem_append_left _ hw, (mainValue_eq_ok (hmain m hm) hmw).1.trans hpm⟩
    · obtain ⟨e, he, rfl⟩ := List.mem_map.mp (hanswers ▸ hm)
      obtain ⟨v, hv, hev⟩ := exists_of_mapM hvalues he
      refine ⟨_, List.mem_append_right _ (List.mem_map_of_mem hv), ?_⟩
      rw [(collectionValue_eq_ok hev).1, hpm]

theorem attribute?_main {p : Mention → Bool} {before after : List Mention} {m : Mention}
    {ws : List (AttributePath × AttributeValue)}
    (hmain : ∀ m' ∈ before ++ m :: after, (s.attributes.lookup m'.index).isSome)
    (hws : ((before ++ m :: after).filter p).mapM (mainValue row s.attributes) = .ok ws)
    (hvalues : answers.mapM collectionValue = .ok values)
    (hafter : ∀ m' ∈ after, m'.target.path ≠ m.target.path)
    (hanswers : ∀ e ∈ answers, e.1.target.path ≠ m.target.path) (hp : p m)
    (hm : item.hasAspect m.target.aspect) :
    ∃ column v, s.attributes.lookup m.index = some column ∧
      row.Reads column m.target.valueType v ∧
      (item.putAll (ws ++ collectionEntries values id)).attribute? m.target.path =
        some (.single v) := by
  rw [List.filter_append, List.filter_cons_of_pos hp] at hws
  obtain ⟨us, -, _, hrest, rfl⟩ := mapM_append_eq_ok.mp hws
  obtain ⟨w, hw, vs, hvs, rfl⟩ := mapM_cons_eq_ok.mp hrest
  obtain ⟨hpath, column, v, hcolumn, hreads, hwv⟩ :=
    mainValue_eq_ok (hmain m (List.mem_append_right _ List.mem_cons_self)) hw
  refine ⟨column, v, hcolumn, hreads, ?_⟩
  rw [← hwv, ← hpath, List.append_assoc, List.cons_append]
  -- What is put in behind the value has another path, be it of a mention or of a collection.
  refine MediaItem.attribute?_putAll_last (by rw [hpath]; exact hm) us fun w' hw' => ?_
  rw [hpath]
  rcases List.mem_append.mp hw' with hw' | hw'
  · obtain ⟨m', hm', hmw⟩ := mem_of_mapM hvs hw'
    have hmem := List.mem_of_mem_filter hm'
    have hcolumn' := hmain m' (List.mem_append_right _ (List.mem_cons_of_mem m hmem))
    rw [(mainValue_eq_ok hcolumn' hmw).1]
    exact hafter m' hmem
  · obtain ⟨v', hv', rfl⟩ := List.mem_map.mp hw'
    obtain ⟨e, he, hev⟩ := mem_of_mapM hvalues hv'
    rw [(collectionValue_eq_ok hev).1]
    exact hanswers e he

theorem attribute?_collection {before after : List CollectionAnswer} {e : CollectionAnswer}
    (hvalues : (before ++ e :: after).mapM collectionValue = .ok values)
    (hafter : ∀ e' ∈ after, e'.1.target.path ≠ e.1.target.path)
    (he : item.hasAspect e.1.target.aspect) (ws : List (AttributePath × AttributeValue)) :
    ∃ vs : List (ItemId × Value), List.Forall₂ (fun row v => row.Reads e.2.1.itemId .id (.id v.1) ∧
        row.Reads e.2.1.value e.1.target.valueType v.2) e.2.2 vs ∧
      (item.putAll (ws ++ collectionEntries values id)).attribute? e.1.target.path =
        some (.collection ((vs.filter fun v => v.1 = id).map Prod.snd)) := by
  obtain ⟨us, -, _, hrest, rfl⟩ := mapM_append_eq_ok.mp hvalues
  obtain ⟨v, hv, vs, hvs, rfl⟩ := mapM_cons_eq_ok.mp hrest
  obtain ⟨hmention, hreads⟩ := collectionValue_eq_ok hv
  refine ⟨v.2, hreads, ?_⟩
  rw [collectionEntries, List.map_append, List.map_cons, ← List.append_assoc, ← hmention]
  refine MediaItem.attribute?_putAll_last (w := (v.1.target.path, _)) (by rw [hmention]; exact he) _
    fun w hw => ?_
  obtain ⟨v', hv', rfl⟩ := List.mem_map.mp hw
  obtain ⟨e', he', hev⟩ := mem_of_mapM hvs hv'
  rw [(collectionValue_eq_ok hev).1, hmention]
  exact hafter e' he'

theorem hydrates_of_hydrateRow (hmain : ∀ m ∈ main, (s.attributes.lookup m.index).isSome)
    (hanswers : answers.map Prod.fst = collections)
    (hdisjoint : ∀ m ∈ main, ∀ m' ∈ collections, m'.target.path ≠ m.target.path)
    (hvalues : answers.mapM collectionValue = .ok values)
    (h : hydrateRow s main values id row = .ok item) :
    item.id = id ∧ Hydrates main collections s answers row item := by
  obtain ⟨-, ws, hws, rfl⟩ := (hydrateRow_eq_ok hmain).mp h
  set base := ({ id } : MediaItem).addAspects (s.shown row) with hbase
  have hnone : ∀ path, base.attribute? path = none := fun path =>
    MediaItem.attribute?_addAspects rfl (s.shown row)
  have hascending : base.Ascending :=
    MediaItem.ascending_addAspects ⟨ByName.ascending_empty, by simp⟩ _
  have haspects : ∀ a, base.hasAspect a ↔ a ∈ s.shown row := by
    intro a
    rw [hbase, MediaItem.hasAspect_addAspects]
    exact or_iff_left nofun
  have hid : (base.putAll (ws ++ collectionEntries values id)).id = id := by
    rw [MediaItem.id_putAll, MediaItem.id_addAspects]
  refine ⟨hid, MediaItem.ascending_putAll hascending _, fun a => ?_, fun path => ?_, ?_, ?_⟩
  · rw [MediaItem.hasAspect_putAll, haspects]
  · rw [MediaItem.hasAspect_putAll]
    by_cases hpath : base.hasAspect path.aspect
    · rw [MediaItem.isSome_attribute?_putAll hpath (hnone path),
        exists_path_iff hmain hanswers hws hvalues, and_iff_right hpath]
      rintro m - rfl
      exact decide_eq_true ((haspects m.target.aspect).mp hpath)
    · have hpath' : (base.putAll (ws ++ collectionEntries values id)).hasAspect path.aspect =
          false := by
        rw [MediaItem.hasAspect_putAll]
        simpa using hpath
      rw [MediaItem.attribute?_of_not_hasAspect hpath']
      exact ⟨nofun, fun h => absurd h.1 hpath⟩
  · rintro before m after rfl hafter hm
    rw [MediaItem.hasAspect_putAll] at hm
    exact attribute?_main hmain hws hvalues hafter
      (fun e he => hdisjoint m (List.mem_append_right _ List.mem_cons_self) e.1
        (hanswers ▸ List.mem_map_of_mem he)) (decide_eq_true ((haspects _).mp hm)) hm
  · rintro before e after rfl hafter he
    rw [MediaItem.hasAspect_putAll] at he
    rw [hid]
    exact attribute?_collection hvalues hafter he ws

end

/-- The items of a query are those of its rows, each once and in the order of their first rows. -/
structure Hydrated (q : ItemQuery) (s : ItemStatement) (answers : List CollectionAnswer)
    (rows : List Row) (items : List MediaItem) : Prop where
  ids : ∃ ids : List ItemId, List.Forall₂ (fun row id => row.Reads s.itemId .id (.id id)) rows ids ∧
    items.map MediaItem.id = ids.eraseDups
  items : ∀ item ∈ items, ∃ row, s.FirstRow rows item.id row ∧
    Hydrates q.main q.collections s answers row item

/-- All rows of the collections can be read, and of the primary rows all ids and what the first row
of each item has for it. -/
structure Readable (q : ItemQuery) (s : ItemStatement) (answers : List CollectionAnswer)
    (rows : List Row) : Prop where
  collections : ∀ e ∈ answers, ∀ row ∈ e.2.2, (∃ id, row.Reads e.2.1.itemId .id (.id id)) ∧
    ∃ v, row.Reads e.2.1.value e.1.target.valueType v
  ids : ∀ row ∈ rows, ∃ id, row.Reads s.itemId .id (.id id)
  presence : ∀ id row, s.FirstRow rows id row → ∀ e ∈ s.presence, ∃ v, row.get? e.2 = some v
  main : ∀ id row, s.FirstRow rows id row → ∀ m ∈ q.main, m.target.aspect ∈ s.shown row →
    ∀ column, s.attributes.lookup m.index = some column → ∃ v, row.Reads column m.target.valueType v

section

variable {q : ItemQuery} {s : ItemStatement} {ss : List CorrelatedStatement}
  {answers : List CollectionAnswer} {rows : List Row} {results : List (List Row)}
  {items : List MediaItem}

theorem hydrate_eq_ok : q.hydrate s ss rows results = .ok items ↔
    ∃ values, (q.collections.zip (ss.zip results)).mapM collectionValue = .ok values ∧
      hydrateRows s q.main values [] rows = .ok items := by
  rw [hydrate, collectValues_eq_mapM, bind_eq_ok]

theorem mem_firstRows_iff {es : List (ItemId × Row)} (hes : rows.mapM s.identify = .ok es)
    {id : ItemId} {row : Row} : (id, row) ∈ firstRows [] es ↔ s.FirstRow rows id row := by
  rw [mem_firstRows]
  constructor
  · rintro ⟨-, before, after, rfl, hbefore⟩
    have hids : ∀ e ∈ before ++ (id, row) :: after, e.2.Reads s.itemId .id (.id e.1) := by
      intro e he
      obtain ⟨r, -, hr⟩ := mem_of_mapM hes he
      obtain ⟨hid, rfl⟩ := ItemStatement.identify_eq_ok.mp hr
      exact hid
    refine ⟨before.map Prod.snd, after.map Prod.snd, ?_,
      hids _ (List.mem_append_right _ List.mem_cons_self), fun r hr hread => ?_⟩
    · rw [← ItemStatement.map_snd_of_identify hes, List.map_append, List.map_cons]
    · obtain ⟨e, he, rfl⟩ := List.mem_map.mp hr
      have hid := (hids e (List.mem_append_left _ he)).unique hread
      exact hbefore e he (Value.id.inj hid)
  · rintro ⟨before, after, rfl, hrow, hbefore⟩
    obtain ⟨us, hus, _, hrest, rfl⟩ := mapM_append_eq_ok.mp hes
    obtain ⟨⟨id', row'⟩, he, vs, -, rfl⟩ := mapM_cons_eq_ok.mp hrest
    obtain ⟨hid, rfl⟩ := ItemStatement.identify_eq_ok.mp he
    obtain rfl := Value.id.inj (hid.unique hrow)
    refine ⟨List.not_mem_nil, us, vs, rfl, fun e he heq => ?_⟩
    obtain ⟨r, hr, hre⟩ := mem_of_mapM hus he
    obtain ⟨hread, rfl⟩ := ItemStatement.identify_eq_ok.mp hre
    exact hbefore _ hr (heq ▸ hread)

theorem exists_collectionValue_iff {e : CollectionAnswer} : (∃ v, collectionValue e = .ok v) ↔
    ∀ row ∈ e.2.2, (∃ id, row.Reads e.2.1.itemId .id (.id id)) ∧
      ∃ v, row.Reads e.2.1.value e.1.target.valueType v := by
  constructor
  · rintro ⟨v, hv⟩ row hrow
    obtain ⟨vs, hvs, -⟩ := bind_eq_ok.mp hv
    obtain ⟨w, -, hw⟩ := exists_of_mapM hvs hrow
    obtain ⟨hid, hvalue⟩ := CorrelatedStatement.itemValue_eq_ok.mp hw
    exact ⟨⟨_, hid⟩, _, hvalue⟩
  · intro h
    obtain ⟨vs, hvs⟩ := mapM_total (f := e.2.1.itemValue e.1.target) fun row hrow => by
      obtain ⟨⟨id, hid⟩, v, hv⟩ := h row hrow
      exact ⟨(id, v), CorrelatedStatement.itemValue_eq_ok.mpr ⟨hid, hv⟩⟩
    exact ⟨(e.1, vs), bind_eq_ok.mpr ⟨vs, hvs, rfl⟩⟩

theorem exists_hydrateRow_iff {main : List Mention}
    (hmain : ∀ m ∈ main, (s.attributes.lookup m.index).isSome)
    {values : List (Mention × ItemValues)} {id : ItemId} {row : Row} :
    (∃ item, hydrateRow s main values id row = .ok item) ↔
      (∀ e ∈ s.presence, ∃ v, row.get? e.2 = some v) ∧
      ∀ m ∈ main, m.target.aspect ∈ s.shown row → ∀ column,
        s.attributes.lookup m.index = some column → ∃ v, row.Reads column m.target.valueType v := by
  simp only [hydrateRow_eq_ok hmain]
  constructor
  · rintro ⟨item, hpresence, ws, hws, -⟩
    refine ⟨hpresence, fun m hm haspect column hcolumn => ?_⟩
    obtain ⟨w, -, hw⟩ := exists_of_mapM hws (List.mem_filter.mpr ⟨hm, decide_eq_true haspect⟩)
    obtain ⟨-, column', v, hcolumn', hv, -⟩ := mainValue_eq_ok (hmain m hm) hw
    obtain rfl := Option.some.inj (hcolumn.symm.trans hcolumn')
    exact ⟨v, hv⟩
  · rintro ⟨hpresence, hreads⟩
    have htotal : ∀ m ∈ main.filter fun m => m.target.aspect ∈ s.shown row,
        ∃ w, mainValue row s.attributes m = .ok w := by
      intro m hm
      obtain ⟨hm, haspect⟩ := List.mem_filter.mp hm
      obtain ⟨column, hcolumn⟩ := Option.isSome_iff_exists.mp (hmain m hm)
      obtain ⟨v, hv⟩ := hreads m hm (of_decide_eq_true haspect) column hcolumn
      refine ⟨(m.target.path, .single v), bind_eq_ok.mpr ⟨v, ?_, rfl⟩⟩
      rw [hcolumn]
      exact Row.attributeValue_eq_ok.mpr hv
    obtain ⟨ws, hws⟩ := mapM_total htotal
    exact ⟨_, hpresence, ws, hws, rfl⟩

theorem exists_hydrate_iff (hmain : ∀ m ∈ q.main, (s.attributes.lookup m.index).isSome) :
    (∃ items, q.hydrate s ss rows results = .ok items) ↔
      q.Readable s (q.collections.zip (ss.zip results)) rows := by
  constructor
  · rintro ⟨items, hitems⟩
    obtain ⟨values, hvalues, hrows⟩ := hydrate_eq_ok.mp hitems
    obtain ⟨es, hes, hfirst⟩ := hydrateRows_eq_ok.mp hrows
    have hitem : ∀ id row, s.FirstRow rows id row →
        ∃ item, hydrateRow s q.main values id row = .ok item := by
      intro id row hrow
      obtain ⟨item, -, hitem⟩ := exists_of_mapM hfirst ((mem_firstRows_iff hes).mpr hrow)
      exact ⟨item, hitem⟩
    refine ⟨fun e he => ?_, fun row hrow => ?_, fun id row hrow => ?_, fun id row hrow => ?_⟩
    · obtain ⟨v, -, hv⟩ := exists_of_mapM hvalues he
      exact exists_collectionValue_iff.mp ⟨v, hv⟩
    · obtain ⟨e, -, he⟩ := exists_of_mapM hes hrow
      exact ⟨e.1, (ItemStatement.identify_eq_ok.mp he).1⟩
    · exact ((exists_hydrateRow_iff hmain).mp (hitem id row hrow)).1
    · exact ((exists_hydrateRow_iff hmain).mp (hitem id row hrow)).2
  · intro h
    obtain ⟨values, hvalues⟩ := mapM_total fun e he =>
      exists_collectionValue_iff.mpr (h.collections e he)
    obtain ⟨es, hes⟩ := mapM_total (f := s.identify) fun row hrow => by
      obtain ⟨id, hid⟩ := h.ids row hrow
      exact ⟨(id, row), ItemStatement.identify_eq_ok.mpr ⟨hid, rfl⟩⟩
    have hitem : ∀ e ∈ firstRows [] es, ∃ item, hydrateRow s q.main values e.1 e.2 = .ok item := by
      intro e he
      have hrow := (mem_firstRows_iff hes).mp he
      exact (exists_hydrateRow_iff hmain).mpr ⟨h.presence _ _ hrow, h.main _ _ hrow⟩
    obtain ⟨items, hitems⟩ := mapM_total hitem
    exact ⟨items, hydrate_eq_ok.mpr ⟨values, hvalues, hydrateRows_eq_ok.mpr ⟨es, hes, hitems⟩⟩⟩

theorem hydrated_of_hydrate (hmain : ∀ m ∈ q.main, (s.attributes.lookup m.index).isSome)
    (hss : ss.length = q.collections.length) (hresults : results.length = ss.length)
    (hdisjoint : ∀ m ∈ q.main, ∀ m' ∈ q.collections, m'.target.path ≠ m.target.path)
    (h : q.hydrate s ss rows results = .ok items) :
    q.Hydrated s (q.collections.zip (ss.zip results)) rows items := by
  obtain ⟨values, hvalues, hrows⟩ := hydrate_eq_ok.mp h
  obtain ⟨es, hes, hfirst⟩ := hydrateRows_eq_ok.mp hrows
  have hanswers : (q.collections.zip (ss.zip results)).map Prod.fst = q.collections :=
    List.map_fst_zip (by rw [List.length_zip]; omega)
  have hhydrates : ∀ {id row item}, hydrateRow s q.main values id row = .ok item →
      item.id = id ∧
        Hydrates q.main q.collections s (q.collections.zip (ss.zip results)) row item :=
    fun hitem => hydrates_of_hydrateRow hmain hanswers hdisjoint hvalues hitem
  refine ⟨⟨es.map Prod.fst, ?_, ?_⟩, fun item hitem => ?_⟩
  · refine List.forall₂_map_right_iff.mpr ((forall₂_of_mapM.mp hes).imp fun row e he => ?_)
    exact (ItemStatement.identify_eq_ok.mp he).1
  · rw [map_of_mapM (fun _ _ hitem => (hhydrates hitem).1) hfirst, map_firstRows]
    simp
  · obtain ⟨⟨id, row⟩, he, hitem⟩ := mem_of_mapM hfirst hitem
    obtain ⟨rfl, hitem⟩ := hhydrates hitem
    exact ⟨row, (mem_firstRows_iff hes).mp he, hitem⟩

end

section

variable {schema : Schema} {q : ItemQuery}

theorem Compiled.path_ne (h : q.Compiled schema) {m m' : Mention} (hm : m ∈ q.main)
    (hm' : m' ∈ q.collections) : m'.target.path ≠ m.target.path := by
  intro hpath
  obtain ⟨ms, hknown⟩ := h.primary
  have hmain := hknown.select m hm
  have hlookup := h.lookup m' hm'
  rw [hpath] at hlookup
  have htarget := Except.ok.inj (hlookup.symm.trans hmain.lookup)
  have hbounded := h.collection m' hm'
  rw [htarget, hmain.bounded] at hbounded
  exact Bool.noConfusion hbounded

theorem Compiled.columns_primary (hs : schema.Proper) (h : q.Compiled schema) :
    ∃ f s, q.primary.frame schema q.predicate {} = .ok f ∧ q.primaryStatement = .ok s ∧
      q.primary.Columns schema f s := by
  obtain ⟨ms, hknown⟩ := h.primary
  obtain ⟨f, s, aliases, hframe, hitems, hcolumns⟩ :=
    Primary.columns_items hknown hs Aliases.sound_empty q.options.dialect
  exact ⟨f, s, hframe, h.primaryStatement_eq_ok_iff.mpr ⟨aliases, hitems⟩, hcolumns⟩

theorem Compiled.columns_collection (hs : schema.Proper) (h : q.Compiled schema) {m : Mention}
    (hm : m ∈ q.collections) {s : CorrelatedStatement}
    (hstatement : q.collectionStatement m = .ok s) :
    ∃ f, Collection.frame schema q.predicate m.target q.necessary {} = .ok f ∧
      Collection.Columns f s := by
  obtain ⟨ms, hknown⟩ := h.known_collection hm
  obtain ⟨f, t, aliases, hframe, hcorrelated, hcolumns⟩ :=
    Collection.columns_correlated hknown hs Aliases.sound_empty
  have heq : q.collectionStatement m = .ok t :=
    h.collectionStatement_eq_ok_iff.mpr ⟨aliases, hcorrelated⟩
  obtain rfl := Except.ok.inj (hstatement.symm.trans heq)
  exact ⟨f, hframe, hcolumns⟩

end

/-- How the rows that a store answers become items, or fail to. -/
structure Exact (q : ItemQuery) (s : ItemStatement) (ss : List CorrelatedStatement)
    (results : List (List Row)) (rows : List Row)
    (outcome : Except QueryError (List MediaItem)) : Prop where
  length : results.length = q.collections.length
  hydrated : ∀ items, outcome = .ok items →
    q.Hydrated s (q.collections.zip (ss.zip results)) rows items
  fails : (∃ e, outcome = .error e) ↔ ¬q.Readable s (q.collections.zip (ss.zip results)) rows

/-- Whenever a store answers all statements of a query, its items are exactly what the rows say, and
there are none only if a row cannot be read. -/
theorem hydration_exact {d : SchemaDefinition} {naming : Naming} {schema : Schema}
    (hschema : Schema.ofDefinition d naming = .ok schema) {options : Options} {request : Request}
    {q : ItemQuery} (hq : ofRequest schema options request = .ok q) :
    q.Requested schema request ∧
    ∃ f s ss, q.primary.frame schema q.predicate {} = .ok f ∧ q.primaryStatement = .ok s ∧
      q.collectionStatements = .ok ss ∧ q.primary.Columns schema f s ∧
      (∀ e ∈ q.collections.zip ss, ∃ g, Collection.frame schema q.predicate e.1.target q.necessary
        {} = .ok g ∧ Collection.Columns g e.2) ∧
      ∀ {σ : Type} (store : Store σ) (t t' : σ) results rows,
        store.inTransaction (runAll store (ss.map fun c => c.bound q.options.dialect)
          (s.bound q.options.dialect)) t = (.ok (results, rows), t') →
        q.Exact s ss results rows (q.execute store t).1 := by
  have hproper := Schema.proper_of_ofDefinition hschema
  have hcompiled := compiled_ofRequest hproper hq
  obtain ⟨f, s, hframe, hprimary, hcolumns⟩ := hcompiled.columns_primary hproper
  obtain ⟨ss, hss⟩ := hcompiled.collectionStatements_total hproper
  have hlength := length_of_mapM hss
  have hmain : ∀ m ∈ q.main, (s.attributes.lookup m.index).isSome := by
    intro m hm
    obtain ⟨a, -, ha, -⟩ := hcolumns.select m hm
    exact Option.isSome_of_eq_some ha
  refine ⟨requested_ofRequest hproper hq, f, s, ss, hframe, hprimary, hss, hcolumns, fun e he => ?_,
    fun store t t' results rows hstore => ?_⟩
  · have hstatement : q.collectionStatement e.1 = .ok e.2 :=
      List.forall₂_zip (forall₂_of_mapM.mp hss) he
    exact hcompiled.columns_collection hproper (List.of_mem_zip he).1 hstatement
  · have hresults : results.length = ss.length := by
      simpa using length_of_inTransaction hstore
    have hexecute : (q.execute store t).1 = q.hydrate s ss rows results := by
      rw [execute_eq hprimary hss, resultOf, hstore]
      rfl
    rw [hexecute]
    refine ⟨hresults.trans hlength, fun items hitems => ?_, ?_⟩
    · exact hydrated_of_hydrate hmain hlength hresults
        (fun m hm m' hm' => hcompiled.path_ne hm hm') hitems
    · rw [← exists_hydrate_iff hmain]
      cases q.hydrate s ss rows results <;> simp

open Predicate (films filmSchema filmFilter) in
theorem hydration_exact_films :
    let request : Request := {
      necessary := ["film"]
      select := [⟨"film", "title"⟩, ⟨"film", "genre"⟩]
      filter := some filmFilter }
    let id : ItemId := ⟨List.replicate 32 0, rfl⟩
    let row : Row := ⟨["A0", "A1", "A2"], [.id id, .id id, .text "Alien"]⟩
    let genre : Row := ⟨["A0", "A1"], [.id id, .text "horror"]⟩
    let script : Script := { results := [.ok [genre], .ok [row, row]] }
    Schema.ofDefinition films {} = .ok filmSchema ∧
      ∃ q, ofRequest filmSchema {} request = .ok q ∧ (q.execute Script.store script).1.isOk ∧
        ∃ s ss, q.primaryStatement = .ok s ∧ q.collectionStatements = .ok ss ∧
          q.Exact s ss [[genre]] [row, row] (q.execute Script.store script).1 := by
  intro request id row genre script
  have hschema : Schema.ofDefinition films {} = .ok filmSchema := rfl
  obtain ⟨q, hq, hok, hlength⟩ : ∃ q, ofRequest filmSchema {} request = .ok q ∧
      (q.execute Script.store script).1.isOk ∧ q.collections.length = 1 :=
    ⟨_, rfl, by decide, rfl⟩
  obtain ⟨-, f, s, ss, -, hprimary, hss, -, -, hexact⟩ := hydration_exact hschema hq
  obtain ⟨t, rfl⟩ := List.length_eq_one_iff.mp ((length_of_mapM hss).trans hlength)
  exact ⟨hschema, q, hq, hok, s, [t], hprimary, hss, hexact Script.store script _ _ _ rfl⟩

end ItemQuery

end AspectQuery

import AspectQuery.Transaction
/-!
# Sessions with a store

What a store is asked for in a transaction, whatever it answers. Statements run in their order up to
the first one that fails. A session starts, runs its statements, and ends with a commit or, where a
statement failed, with a rollback.
-/

set_option autoImplicit false

namespace AspectQuery

namespace Store

variable {σ α β : Type}

/-- The store answers statements one after another, up to the first one that fails. -/
inductive Runs (store : Store σ) :
    List Bound → σ → List StoreEvent → Except StoreError (List (List Row)) → σ → Prop where
  | done (s : σ) : Runs store [] s [] (.ok []) s
  | fails {b rest s e t} (h : store.query b s = (.error e, t)) :
    Runs store (b :: rest) s [.query b] (.error e) t
  | answers {b rest s rows t es r u} (h : store.query b s = (.ok rows, t))
    (hrest : Runs store rest t es r u) :
    Runs store (b :: rest) s (.query b :: es) (r.map fun results => rows :: results) u

/-- The same for rows in another form. -/
def RunsAs (store : Store σ) (bounds : List Bound) (rows : α → List (List Row)) (s : σ)
    (es : List StoreEvent) (r : Except StoreError α) (t : σ) : Prop :=
  Runs store bounds s es (r.map rows) t

/-- The store answers a statement, and others behind it if there are rows for it. -/
inductive RunsIfAny (store : Store σ) (first : Bound) (others : List Bound) :
    σ → List StoreEvent → Except StoreError (Option (List Row × List (List Row))) → σ → Prop where
  | fails {s e t} (h : store.query first s = (.error e, t)) :
    RunsIfAny store first others s [.query first] (.error e) t
  | empty {s t} (h : store.query first s = (.ok [], t)) :
    RunsIfAny store first others s [.query first] (.ok none) t
  | answers {s rows t es r u} (h : store.query first s = (.ok rows, t)) (hrows : rows ≠ [])
    (hothers : Runs store others t es r u) :
    RunsIfAny store first others s (.query first :: es)
      (r.map fun results => some (rows, results)) u

/-- One transaction around statements. A failure of the rollback is passed over. -/
inductive Session (store : Store σ) (body : σ → List StoreEvent → Except StoreError α → σ → Prop) :
    σ → List StoreEvent → Except StoreError α → σ → Prop where
  | refused {s e t} (hstart : store.start s = (.error e, t)) :
    Session store body s [.start] (.error e) t
  | rolledBack {s t es e u r v} (hstart : store.start s = (.ok (), t))
    (hbody : body t es (.error e) u) (hrollback : store.rollback u = (r, v)) :
    Session store body s (.start :: es ++ [.rollback]) (.error e) v
  | uncommitted {s t es a u e v} (hstart : store.start s = (.ok (), t))
    (hbody : body t es (.ok a) u) (hcommit : store.commit u = (.error e, v)) :
    Session store body s (.start :: es ++ [.commit]) (.error e) v
  | committed {s t es a u v} (hstart : store.start s = (.ok (), t))
    (hbody : body t es (.ok a) u) (hcommit : store.commit u = (.ok (), v)) :
    Session store body s (.start :: es ++ [.commit]) (.ok a) v

variable {store : Store σ}

theorem Runs.events {bounds : List Bound} {s t : σ} {es : List StoreEvent}
    {r : Except StoreError (List (List Row))} (h : Runs store bounds s es r t) :
    ∃ done, done <+: bounds ∧ es = done.map .query ∧
      ∀ results, r = .ok results → done = bounds ∧ results.length = bounds.length := by
  induction h with
  | done s => exact ⟨[], List.prefix_refl _, rfl, by simp⟩
  | @fails b rest s e t h => exact ⟨[b], by simp, rfl, by simp⟩
  | @answers b rest s rows t es r u h hrest ih =>
    obtain ⟨done, hdone, rfl, hall⟩ := ih
    refine ⟨b :: done, List.cons_prefix_cons.mpr ⟨rfl, hdone⟩, rfl, fun results hresults => ?_⟩
    cases r with
    | error e => simp [Except.map] at hresults
    | ok rest' =>
      obtain ⟨rfl, hlength⟩ := hall rest' rfl
      obtain rfl : rows :: rest' = results := by simpa [Except.map] using hresults
      exact ⟨rfl, by rw [List.length_cons, List.length_cons, hlength]⟩

theorem RunsAs.events {bounds : List Bound} {rows : α → List (List Row)} {s t : σ}
    {es : List StoreEvent} {r : Except StoreError α} (h : RunsAs store bounds rows s es r t) :
    ∃ done, done <+: bounds ∧ es = done.map .query ∧ ∀ a, r = .ok a → done = bounds := by
  obtain ⟨done, hdone, hes, hall⟩ := Runs.events h
  refine ⟨done, hdone, hes, ?_⟩
  rintro a rfl
  exact (hall _ rfl).1

theorem Runs.append_error {bounds more : List Bound} {s t : σ} {es : List StoreEvent}
    {e : StoreError} (h : Runs store bounds s es (.error e) t) :
    Runs store (bounds ++ more) s es (.error e) t := by
  -- The induction is over all outcomes, of which an equation keeps the failures.
  generalize hr : (Except.error e : Except StoreError (List (List Row))) = r at h
  induction h with
  | done s => simp at hr
  | fails h => exact .fails h
  | @answers b rest s rows t es r u h hrest ih =>
    cases r with
    | ok results => simp [Except.map] at hr
    | error e' =>
      obtain rfl : e = e' := by simpa [Except.map] using hr
      exact .answers h (ih rfl)

theorem Runs.append_ok {bounds more : List Bound} {s t u : σ} {es es' : List StoreEvent}
    {results : List (List Row)} {r : Except StoreError (List (List Row))}
    (h : Runs store bounds s es (.ok results) t) (hmore : Runs store more t es' r u) :
    Runs store (bounds ++ more) s (es ++ es') (r.map fun others => results ++ others) u := by
  generalize hall : (Except.ok results : Except StoreError (List (List Row))) = all at h
  induction h generalizing results with
  | done s =>
    obtain rfl := Except.ok.inj hall
    cases r <;> exact hmore
  | fails h => simp at hall
  | @answers b rest s rows t es all u h hrest ih =>
    cases all with
    | error e => simp [Except.map] at hall
    | ok others =>
      obtain rfl : results = rows :: others := by simpa [Except.map] using hall
      have hrest' := Runs.answers h (ih hmore rfl)
      cases r <;> exact hrest'

theorem RunsIfAny.events {first : Bound} {others : List Bound} {s t : σ} {es : List StoreEvent}
    {r : Except StoreError (Option (List Row × List (List Row)))}
    (h : RunsIfAny store first others s es r t) :
    ∃ done, done <+: first :: others ∧ es = done.map .query ∧
      (r = .ok none → done = [first]) ∧
      ∀ rows results, r = .ok (some (rows, results)) →
        done = first :: others ∧ results.length = others.length := by
  cases h with
  | fails h => exact ⟨[first], by simp, rfl, by simp, by simp⟩
  | empty h => exact ⟨[first], by simp, rfl, by simp, by simp⟩
  | @answers rows u es r _ h hrows hothers =>
    obtain ⟨done, hdone, rfl, hall⟩ := hothers.events
    refine ⟨first :: done, List.cons_prefix_cons.mpr ⟨rfl, hdone⟩, rfl, ?_, ?_⟩
    · cases r <;> simp [Except.map]
    · intro rows' results' h'
      cases r with
      | error e => simp [Except.map] at h'
      | ok results =>
        obtain ⟨rfl, rfl⟩ : rows = rows' ∧ results = results' := by simpa [Except.map] using h'
        obtain ⟨rfl, hlength⟩ := hall results rfl
        exact ⟨rfl, hlength⟩

/-- A function on the state of a store, and what it does with a record of what is asked for. -/
def Realizes (body : σ → List StoreEvent → α → σ → Prop) (f : σ → α × σ)
    (g : σ × List StoreEvent → α × σ × List StoreEvent) : Prop :=
  ∀ s l, ∃ es, body s es (f s).1 (f s).2 ∧ g (s, l) = ((f s).1, (f s).2, l ++ es)

theorem recorded_start {s t : σ} {r : Except StoreError Unit} (h : store.start s = (r, t))
    (l : List StoreEvent) : store.recorded.start (s, l) = (r, t, l ++ [.start]) := by
  simp only [recorded, h]

theorem recorded_query {b : Bound} {s t : σ} {r : Except StoreError (List Row)}
    (h : store.query b s = (r, t)) (l : List StoreEvent) :
    store.recorded.query b (s, l) = (r, t, l ++ [.query b]) := by
  simp only [recorded, h]

theorem recorded_commit {s t : σ} {r : Except StoreError Unit} (h : store.commit s = (r, t))
    (l : List StoreEvent) : store.recorded.commit (s, l) = (r, t, l ++ [.commit]) := by
  simp only [recorded, h]

theorem realizes_queryAll (store : Store σ) (bounds : List Bound) :
    Realizes (Runs store bounds) (store.queryAll bounds) (store.recorded.queryAll bounds) := by
  induction bounds with
  | nil => exact fun s l => ⟨[], .done s, by simp [queryAll]⟩
  | cons b rest ih =>
    intro s l
    rcases hquery : store.query b s with ⟨r, t⟩
    have hrecorded := recorded_query hquery l
    cases r with
    | error e =>
      simp only [queryAll, hquery, hrecorded]
      exact ⟨[.query b], .fails hquery, rfl⟩
    | ok rows =>
      -- The rest is asked for behind a record that is longer by this statement.
      obtain ⟨es, hruns, hrest⟩ := ih t (l ++ [.query b])
      rcases hall : store.queryAll rest t with ⟨r, u⟩
      rw [hall] at hruns hrest
      refine ⟨.query b :: es, ?_, ?_⟩
      · have hanswers := Runs.answers hquery hruns
        simp only [queryAll, hquery, hall]
        cases r <;> exact hanswers
      · simp only [queryAll, hquery, hrecorded, hall, hrest]
        cases r <;> simp

theorem realizes_query (store : Store σ) (b : Bound) :
    Realizes (RunsAs store [b] fun rows => [rows]) (store.query b)
      (store.recorded.query b) := by
  intro s l
  rcases hquery : store.query b s with ⟨r, t⟩
  refine ⟨[.query b], ?_, recorded_query hquery l⟩
  cases r with
  | error e => exact .fails hquery
  | ok rows => exact .answers hquery (.done t)

theorem realizes_queryAllIfAny (store : Store σ) (first : Bound) (others : List Bound) :
    Realizes (RunsIfAny store first others) (store.queryAllIfAny first others)
      (store.recorded.queryAllIfAny first others) := by
  intro s l
  rcases hquery : store.query first s with ⟨r, t⟩
  have hrecorded := recorded_query hquery l
  match r with
  | .error e =>
    simp only [queryAllIfAny, hquery, hrecorded]
    exact ⟨[.query first], .fails hquery, rfl⟩
  | .ok [] =>
    simp only [queryAllIfAny, hquery, hrecorded]
    exact ⟨[.query first], .empty hquery, rfl⟩
  | .ok (row :: rows) =>
    obtain ⟨es, hruns, hrest⟩ := realizes_queryAll store others t (l ++ [.query first])
    rcases hall : store.queryAll others t with ⟨r, u⟩
    rw [hall] at hruns hrest
    refine ⟨.query first :: es, ?_, ?_⟩
    · have hanswers := RunsIfAny.answers hquery (by simp) hruns
      simp only [queryAllIfAny, hquery, hall]
      cases r <;> exact hanswers
    · simp only [queryAllIfAny, hquery, hrecorded, hall, hrest]
      cases r <;> simp

theorem Realizes.inTransaction {body : σ → List StoreEvent → Except StoreError α → σ → Prop}
    {f : σ → Except StoreError α × σ}
    {g : σ × List StoreEvent → Except StoreError α × σ × List StoreEvent}
    (h : Realizes body f g) :
    Realizes (Session store body) (store.inTransaction f) (store.recorded.inTransaction g) := by
  intro s l
  rcases hstart : store.start s with ⟨r, t⟩
  have hrecorded := recorded_start hstart l
  cases r with
  | error e =>
    simp only [Store.inTransaction, hstart, hrecorded]
    exact ⟨[.start], .refused hstart, rfl⟩
  | ok _ =>
    obtain ⟨es, hbody, hrest⟩ := h t (l ++ [.start])
    rcases hf : f t with ⟨r, u⟩
    rw [hf] at hbody hrest
    cases r with
    | error e =>
      simp only [Store.inTransaction, hstart, hrecorded, hf, hrest]
      exact ⟨.start :: es ++ [.rollback], .rolledBack hstart hbody rfl, by simp [recorded]⟩
    | ok a =>
      rcases hcommit : store.commit u with ⟨r, v⟩
      have hrecorded' := recorded_commit hcommit (l ++ [.start] ++ es)
      cases r with
      | error e =>
        simp only [Store.inTransaction, hstart, hrecorded, hf, hrest, hrecorded', hcommit]
        exact ⟨.start :: es ++ [.commit], .uncommitted hstart hbody hcommit, by simp⟩
      | ok _ =>
        simp only [Store.inTransaction, hstart, hrecorded, hf, hrest, hrecorded', hcommit]
        exact ⟨.start :: es ++ [.commit], .committed hstart hbody hcommit, by simp⟩

section

variable {body : σ → List StoreEvent → Except StoreError α → σ → Prop} {s t : σ}
  {log : List StoreEvent} {r : Except StoreError α}

/-- What a session asks for: at most a start, or some of its statements between a start and an
end. -/
theorem Session.log_eq {bounds : List Bound} (h : Session store body s log r t)
    (hbody : ∀ {s es r t}, body s es r t → ∃ done, done <+: bounds ∧ es = done.map .query) :
    log = [.start] ∨ ∃ done last, done <+: bounds ∧ (last = .commit ∨ last = .rollback) ∧
      log = .start :: done.map .query ++ [last] := by
  cases h with
  | refused hstart => exact .inl rfl
  | rolledBack hstart hruns hrollback =>
    obtain ⟨done, hdone, rfl⟩ := hbody hruns
    exact .inr ⟨done, .rollback, hdone, .inr rfl, rfl⟩
  | uncommitted hstart hruns hcommit =>
    obtain ⟨done, hdone, rfl⟩ := hbody hruns
    exact .inr ⟨done, .commit, hdone, .inl rfl, rfl⟩
  | committed hstart hruns hcommit =>
    obtain ⟨done, hdone, rfl⟩ := hbody hruns
    exact .inr ⟨done, .commit, hdone, .inl rfl, rfl⟩

theorem Session.of_ok {a : α} (h : Session store body s log (.ok a) t) :
    ∃ u es v, body u es (.ok a) v ∧ store.commit v = (.ok (), t) ∧
      log = .start :: es ++ [.commit] := by
  cases h with
  | committed hstart hruns hcommit => exact ⟨_, _, _, hruns, hcommit, rfl⟩

end

end Store

end AspectQuery

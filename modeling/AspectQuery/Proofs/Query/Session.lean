import AspectQuery.Proofs.Outcome
import AspectQuery.Proofs.Transaction
import AspectQuery.Query.Hydration
import AspectQuery.Query.Values
/-!
# Executions are sessions

Every execution of a query is one session with the store, over the statements that the explanation
of the query lists. Rows are read after the commit only, and without all statements the store is not
asked for anything.
-/

set_option autoImplicit false

namespace AspectQuery

open Store (Realizes Runs RunsAs RunsIfAny Session)

/-- How an execution goes, with a record of what the store is asked for. Its result is a failure of
the store, or is read from the rows of all statements that were asked for. -/
structure Conducted {σ α β : Type} (store : Store σ) (bounds : List Bound)
    (body : σ → List StoreEvent → Except StoreError α → σ → Prop) (asked : α → List Bound)
    (read : α → Except QueryError β) (s : σ) (log : List StoreEvent) (result : Except QueryError β)
    (t : σ) : Prop where
  session : ∃ outcome, Session store body s log outcome t ∧
    result = (outcome.mapError QueryError.store).bind read
  asks : log = [.start] ∨ ∃ done last, done <+: bounds ∧ (last = .commit ∨ last = .rollback) ∧
    log = .start :: done.map .query ++ [last]
  /-- What is not a failure of the store comes after a commit. -/
  committed : (∀ e, result ≠ .error (.store e)) → ∃ a u,
    log = .start :: (asked a).map .query ++ [.commit] ∧ store.commit u = (.ok (), t) ∧
      result = read a

section

variable {σ α β : Type} {store : Store σ} {bounds : List Bound}
  {body : σ → List StoreEvent → Except StoreError α → σ → Prop} {asked : α → List Bound}

theorem conducted_of_session {read : α → Except QueryError β} {s t : σ} {log : List StoreEvent}
    {outcome : Except StoreError α}
    (hbody : ∀ {s es r t}, body s es r t → ∃ done, done <+: bounds ∧ es = done.map .query ∧
      ∀ a, r = .ok a → done = asked a)
    (h : Session store body s log outcome t) :
    Conducted store bounds body asked read s log ((outcome.mapError .store).bind read) t := by
  refine ⟨⟨outcome, h, rfl⟩, h.log_eq fun hb => ?_, fun hresult => ?_⟩
  · obtain ⟨done, hdone, hes, -⟩ := hbody hb
    exact ⟨done, hdone, hes⟩
  · cases outcome with
    | error e => exact absurd rfl (hresult e)
    | ok a =>
      obtain ⟨u, es, v, hb, hcommit, rfl⟩ := h.of_ok
      obtain ⟨done, -, rfl, hall⟩ := hbody hb
      rw [hall a rfl]
      exact ⟨a, v, rfl, hcommit, rfl⟩

/-- A result that is read from the outcome of a transaction. -/
def resultOf (read : α → Except QueryError β) (f : σ → Except StoreError α × σ) (s : σ) :
    Except QueryError β × σ :=
  (((f s).1.mapError .store).bind read, (f s).2)

theorem realizes_conducted {f : σ → Except StoreError α × σ}
    {g : σ × List StoreEvent → Except StoreError α × σ × List StoreEvent}
    (h : Realizes body f g)
    (hbody : ∀ {s es r t}, body s es r t → ∃ done, done <+: bounds ∧ es = done.map .query ∧
      ∀ a, r = .ok a → done = asked a) (read : α → Except QueryError β) :
    Realizes (Conducted store bounds body asked read) (resultOf read (store.inTransaction f))
      (resultOf read (store.recorded.inTransaction g)) := by
  intro s l
  obtain ⟨log, hsession, hrecorded⟩ := h.inTransaction s l
  refine ⟨log, conducted_of_session hbody hsession, ?_⟩
  simp only [resultOf, hrecorded]

end

namespace ItemQuery

/-- The rows of the collections and of the items, in the order of the statements. -/
def allRows (r : List (List Row) × List Row) : List (List Row) := r.1 ++ [r.2]

/-- The item of a query for one item, if there are rows for it. -/
def readSingle (q : ItemQuery) (p : ItemStatement) (cs : List CorrelatedStatement) :
    Option (List Row × List (List Row)) → Except QueryError (Option MediaItem)
  | none => .ok none
  | some (rows, results) => (q.hydrate p cs rows results).map List.head?

section

variable {σ : Type} {q : ItemQuery} {p : ItemStatement} {cs : List CorrelatedStatement}

theorem execute_eq (hp : q.primaryStatement = .ok p) (hcs : q.collectionStatements = .ok cs)
    (store : Store σ) : q.execute store = resultOf (fun r => q.hydrate p cs r.2 r.1)
      (store.inTransaction (runAll store (cs.map fun c => c.bound q.options.dialect)
        (p.bound q.options.dialect))) := by
  funext s
  simp only [execute, hp, hcs, resultOf]
  rcases store.inTransaction _ s with ⟨_ | ⟨results, rows⟩, t⟩ <;> rfl

theorem executeSingle_eq {id : ItemId} (hp : (q.only id).primaryStatement = .ok p)
    (hcs : (q.only id).collectionStatements = .ok cs) (store : Store σ) :
    q.executeSingle id store = resultOf ((q.only id).readSingle p cs)
      (store.inTransaction (store.queryAllIfAny (p.bound q.options.dialect)
        (cs.map fun c => c.bound q.options.dialect))) := by
  funext s
  have honly : (q.only id).options = q.options := rfl
  simp only [executeSingle, hp, hcs, resultOf, honly]
  rcases store.inTransaction _ s with ⟨_ | _ | ⟨rows, results⟩, t⟩ <;> rfl

theorem realizes_runAll (store : Store σ) (bounds : List Bound) (b : Bound) :
    Realizes (RunsAs store (bounds ++ [b]) allRows) (runAll store bounds b)
      (runAll store.recorded bounds b) := by
  intro s l
  obtain ⟨es, hruns, hrecorded⟩ := Store.realizes_queryAll store bounds s l
  rcases hall : store.queryAll bounds s with ⟨r, t⟩
  rw [hall] at hruns hrecorded
  cases r with
  | error e =>
    simp only [runAll, hall, hrecorded]
    exact ⟨es, hruns.append_error, rfl⟩
  | ok results =>
    obtain ⟨es', hruns', hrecorded'⟩ := Store.realizes_query store b t (l ++ es)
    rcases hquery : store.query b t with ⟨r, u⟩
    rw [hquery] at hruns' hrecorded'
    refine ⟨es ++ es', ?_, ?_⟩
    · have happend := hruns.append_ok hruns'
      simp only [runAll, hall, hquery]
      cases r <;> exact happend
    · simp only [runAll, hall, hquery, hrecorded, hrecorded']
      cases r <;> simp

/-- Where all statements were answered, each collection has its rows. -/
theorem length_of_inTransaction {bounds : List Bound} {b : Bound} {store : Store σ} {s t : σ}
    {results : List (List Row)} {rows : List Row}
    (h : store.inTransaction (runAll store bounds b) s = (.ok (results, rows), t)) :
    results.length = bounds.length := by
  obtain ⟨log, hsession, -⟩ := (realizes_runAll store bounds b).inTransaction s []
  rw [h] at hsession
  obtain ⟨u, es, v, hruns, -⟩ := hsession.of_ok
  obtain ⟨done, -, -, hall⟩ := Runs.events hruns
  have hlength := (hall _ rfl).2
  simpa [allRows] using hlength

theorem statements_of_explain {es : List Explanation} (h : q.explain = .ok es) :
    ∃ p cs, q.primaryStatement = .ok p ∧ q.collectionStatements = .ok cs ∧
      es.map Explanation.statement =
        cs.map (fun c => c.bound q.options.dialect) ++ [p.bound q.options.dialect] := by
  obtain ⟨cs, hcs, h⟩ := bind_eq_ok.mp h
  obtain ⟨p, hp, h⟩ := bind_eq_ok.mp h
  obtain rfl := pure_eq_ok.mp h
  have hzip : (q.collections.zip cs).map Prod.snd = cs :=
    List.map_snd_zip (Nat.le_of_eq (length_of_mapM hcs))
  have hbounds : (q.collections.zip cs).map (fun e => e.2.bound q.options.dialect) =
      cs.map fun c => c.bound q.options.dialect := by
    calc (q.collections.zip cs).map (fun e => e.2.bound q.options.dialect)
        = ((q.collections.zip cs).map Prod.snd).map fun c => c.bound q.options.dialect := by
          rw [List.map_map]
          rfl
      _ = cs.map fun c => c.bound q.options.dialect := by rw [hzip]
  refine ⟨p, cs, hp, hcs, ?_⟩
  rw [List.map_append, List.map_map]
  exact congrArg (· ++ [p.bound q.options.dialect]) hbounds

end

/-- How a query is executed. Where a statement cannot be written, the store is left alone. -/
structure Conducts (q : ItemQuery) : Prop where
  unbuilt : ∀ e, q.explain = .error e → ∀ {σ : Type} (store : Store σ) s,
    q.execute store s = (.error e, s)
  built : ∀ es, q.explain = .ok es → ∃ p cs, q.primaryStatement = .ok p ∧
    q.collectionStatements = .ok cs ∧ ∀ {σ : Type} (store : Store σ),
      Realizes
        (Conducted store (es.map Explanation.statement)
          (RunsAs store (es.map Explanation.statement) allRows)
          (fun _ => es.map Explanation.statement) fun r => q.hydrate p cs r.2 r.1)
        (q.execute store) (q.execute store.recorded)

/-- The statements that a query for one item asks for, by the rows that it gets. -/
def askedFor (first : Bound) (others : List Bound) :
    Option (List Row × List (List Row)) → List Bound
  | none => [first]
  | some _ => first :: others

theorem realizes_executeSingle {σ : Type} {q : ItemQuery} {id : ItemId} {p : ItemStatement}
    {cs : List CorrelatedStatement} (hp : (q.only id).primaryStatement = .ok p)
    (hcs : (q.only id).collectionStatements = .ok cs) (store : Store σ) :
    let first := p.bound q.options.dialect
    let others := cs.map fun c => c.bound q.options.dialect
    Realizes
      (Conducted store (first :: others) (RunsIfAny store first others) (askedFor first others)
        ((q.only id).readSingle p cs))
      (q.executeSingle id store) (q.executeSingle id store.recorded) := by
  intro first others
  rw [executeSingle_eq hp hcs, executeSingle_eq hp hcs]
  refine realizes_conducted (Store.realizes_queryAllIfAny store _ _) (fun hruns => ?_) _
  obtain ⟨done, hdone, hes, hempty, hall⟩ := hruns.events
  refine ⟨done, hdone, hes, fun a ha => ?_⟩
  cases a with
  | none => exact hempty ha
  | some r => exact (hall r.1 r.2 ha).1

/-- How a query for one item is executed. -/
structure ConductsSingle (q : ItemQuery) (id : ItemId) : Prop where
  unbuilt : ∀ e, (q.only id).explain = .error e → ∃ e', ∀ {σ : Type} (store : Store σ) s,
    q.executeSingle id store s = (.error e', s)
  built : ∀ es, (q.only id).explain = .ok es → ∃ p cs, (q.only id).primaryStatement = .ok p ∧
    (q.only id).collectionStatements = .ok cs ∧
    let first := p.bound q.options.dialect
    let others := cs.map fun c => c.bound q.options.dialect
    es.map Explanation.statement = others ++ [first] ∧ ∀ {σ : Type} (store : Store σ),
      Realizes
        (Conducted store (first :: others) (RunsIfAny store first others) (askedFor first others)
          ((q.only id).readSingle p cs))
        (q.executeSingle id store) (q.executeSingle id store.recorded) ∧
      /- Without rows there is no item, and the collections are not asked for. -/
      ∀ s l u v, store.start s = (.ok (), u) → store.query first u = (.ok [], v) →
        q.executeSingle id store.recorded (s, l) =
          (((store.commit v).1.mapError .store).map fun _ => none, (store.commit v).2,
            l ++ [.start, .query first, .commit])

section

variable {σ : Type} {store : Store σ} {q : ItemQuery}

theorem conducts (q : ItemQuery) : q.Conducts := by
  refine ⟨fun e he σ store s => ?_, fun es hes => ?_⟩
  · unfold explain at he
    cases hcs : q.collectionStatements with
    | error e' =>
      rw [hcs] at he
      simp only [execute, hcs, Except.error.inj he]
    | ok cs =>
      cases hp : q.primaryStatement with
      | error e' =>
        rw [hcs, hp] at he
        simp only [execute, hcs, hp, Except.error.inj he]
      | ok p =>
        rw [hcs, hp] at he
        exact absurd he (by simp [bind, Except.bind, pure, Except.pure])
  · obtain ⟨p, cs, hp, hcs, hstatements⟩ := statements_of_explain hes
    refine ⟨p, cs, hp, hcs, fun store => ?_⟩
    rw [execute_eq hp hcs, execute_eq hp hcs, hstatements]
    refine realizes_conducted (realizes_runAll store _ _) (fun hruns => ?_) _
    exact hruns.events

theorem conductsSingle (q : ItemQuery) (id : ItemId) : q.ConductsSingle id := by
  refine ⟨fun e he => ?_, fun es hes => ?_⟩
  · cases hp : (q.only id).primaryStatement with
    | error e' => exact ⟨e', fun store s => by simp only [executeSingle, hp]⟩
    | ok p =>
      cases hcs : (q.only id).collectionStatements with
      | error e' => exact ⟨e', fun store s => by simp only [executeSingle, hp, hcs]⟩
      | ok cs =>
        rw [explain, hcs, hp] at he
        exact absurd he (by simp [bind, Except.bind, pure, Except.pure])
  · obtain ⟨p, cs, hp, hcs, hstatements⟩ := statements_of_explain hes
    refine ⟨p, cs, hp, hcs, hstatements, fun store =>
      ⟨realizes_executeSingle hp hcs store, fun s l u v hstart hquery => ?_⟩⟩
    have hstarted := Store.recorded_start hstart l
    have hqueried := Store.recorded_query hquery (l ++ [.start])
    rcases hcommit : store.commit v with ⟨r, w⟩
    have hcommitted := Store.recorded_commit hcommit
      (l ++ [.start] ++ [.query (p.bound q.options.dialect)])
    rw [executeSingle_eq hp hcs]
    simp only [resultOf, Store.inTransaction, hstarted, Store.queryAllIfAny, hqueried, hcommitted]
    simp only [List.append_assoc, List.cons_append, List.nil_append]
    cases r <;> rfl

end

end ItemQuery

namespace ValueQuery

/-- How a query for values is executed, each of its two statements in a session of its own. -/
structure Conducts (q : ValueQuery) : Prop where
  distinctUnbuilt : ∀ e, q.explainDistinct = .error e → ∀ {σ : Type} (store : Store σ) s,
    q.executeDistinct store s = (.error e, s)
  distinct : ∀ es, q.explainDistinct = .ok es → ∃ p, q.distinctStatement = .ok p ∧
    ∀ {σ : Type} (store : Store σ), Realizes
      (Conducted store (es.map Explanation.statement)
        (RunsAs store (es.map Explanation.statement) fun rows => [rows])
        (fun _ => es.map Explanation.statement)
        (List.mapM fun row => row.attributeValue q.target p.value))
      (q.executeDistinct store) (q.executeDistinct store.recorded)
  groupedUnbuilt : ∀ e, q.explainGrouped = .error e → ∀ {σ : Type} (store : Store σ) s,
    q.executeGrouped store s = (.error e, s)
  grouped : ∀ es, q.explainGrouped = .ok es → ∃ p, q.groupedStatement = .ok p ∧
    ∀ {σ : Type} (store : Store σ), Realizes
      (Conducted store (es.map Explanation.statement)
        (RunsAs store (es.map Explanation.statement) fun rows => [rows])
        (fun _ => es.map Explanation.statement) (List.mapM (q.readGroup p)))
      (q.executeGrouped store) (q.executeGrouped store.recorded)

section

variable {α β : Type} {statement : Except QueryError α} {bound : α → Bound} {label : String}
  {read : α → List Row → Except QueryError β} {explain : Except QueryError (List Explanation)}
  {execute : ∀ {σ : Type}, Store σ → σ → Except QueryError β × σ}

/-- A query with one statement is executed in one session. -/
theorem conducts_statement (hexplain : explain = statement.bind fun p => .ok [⟨label, bound p⟩])
    (herror : ∀ e, statement = .error e → ∀ {σ : Type} (store : Store σ) s,
      execute store s = (.error e, s))
    (hok : ∀ p, statement = .ok p → ∀ {σ : Type} (store : Store σ),
      execute store = resultOf (read p) (store.inTransaction (store.query (bound p)))) :
    (∀ e, explain = .error e → ∀ {σ : Type} (store : Store σ) s,
      execute store s = (.error e, s)) ∧
    ∀ es, explain = .ok es → ∃ p, statement = .ok p ∧ ∀ {σ : Type} (store : Store σ), Realizes
      (Conducted store (es.map Explanation.statement)
        (RunsAs store (es.map Explanation.statement) fun rows => [rows])
        (fun _ => es.map Explanation.statement) (read p))
      (execute store) (execute store.recorded) := by
  subst hexplain
  cases statement with
  | error e => exact ⟨fun e' he => Except.error.inj he ▸ herror e rfl, nofun⟩
  | ok p =>
    refine ⟨nofun, fun es hes => ⟨p, rfl, fun store => ?_⟩⟩
    obtain rfl := Except.ok.inj hes
    rw [hok p rfl, hok p rfl]
    exact realizes_conducted (Store.realizes_query store (bound p)) (fun hruns => hruns.events) _

end

section

variable {q : ValueQuery} {e : QueryError} {σ : Type} (store : Store σ)

theorem executeDistinct_of_error (h : q.distinctStatement = .error e) (s : σ) :
    q.executeDistinct store s = (.error e, s) := by
  simp only [executeDistinct, h]

theorem executeDistinct_eq {p : DistinctValueStatement} (h : q.distinctStatement = .ok p) :
    q.executeDistinct store = resultOf (List.mapM fun row => row.attributeValue q.target p.value)
      (store.inTransaction (store.query (p.bound q.options.dialect))) := by
  funext s
  simp only [executeDistinct, h, resultOf]
  rcases store.inTransaction _ s with ⟨_ | rows, t⟩ <;> rfl

theorem executeGrouped_of_error (h : q.groupedStatement = .error e) (s : σ) :
    q.executeGrouped store s = (.error e, s) := by
  simp only [executeGrouped, h]

theorem executeGrouped_eq {p : GroupedValueStatement} (h : q.groupedStatement = .ok p) :
    q.executeGrouped store = resultOf (List.mapM (q.readGroup p))
      (store.inTransaction (store.query (p.bound q.options.dialect))) := by
  funext s
  simp only [executeGrouped, h, resultOf]
  rcases store.inTransaction _ s with ⟨_ | rows, t⟩ <;> rfl

end

theorem conducts (q : ValueQuery) : q.Conducts := by
  have hdistinct := conducts_statement (rfl : q.explainDistinct = _)
    (fun _ h _ store => executeDistinct_of_error store h)
    (fun _ h _ store => executeDistinct_eq store h)
  have hgrouped := conducts_statement (rfl : q.explainGrouped = _)
    (fun _ h _ store => executeGrouped_of_error store h)
    (fun _ h _ store => executeGrouped_eq store h)
  exact ⟨hdistinct.1, hdistinct.2, hgrouped.1, hgrouped.2⟩

end ValueQuery

/-- Every execution of a query is a session with the store over its explained statements, whatever
the store answers. -/
theorem executions_are_sessions :
    (∀ q : ItemQuery, q.Conducts ∧ ∀ id, q.ConductsSingle id) ∧ ∀ q : ValueQuery, q.Conducts :=
  ⟨fun q => ⟨q.conducts, q.conductsSingle⟩, fun q => q.conducts⟩

end AspectQuery

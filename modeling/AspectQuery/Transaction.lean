import AspectQuery.Store
/-!
# Transactions

A transaction is started, runs its statements and is committed, or is rolled back as soon as one of
its statements fails. What fails first is the failure of the whole; a rollback that fails as well
changes nothing about that.
-/

set_option autoImplicit false

namespace AspectQuery

namespace Store

variable {σ α : Type}

def inTransaction (store : Store σ) (body : σ → Except StoreError α × σ) (s : σ) :
    Except StoreError α × σ :=
  match store.start s with
  | (.error e, s) => (.error e, s)
  | (.ok _, s) =>
    match body s with
    | (.error e, s) => (.error e, (store.rollback s).2)
    | (.ok a, s) =>
      match store.commit s with
      | (.error e, s) => (.error e, s)
      | (.ok _, s) => (.ok a, s)

/-- The rows of statements in their order; none after one that fails. -/
def queryAll (store : Store σ) : List Bound → σ → Except StoreError (List (List Row)) × σ
  | [], s => (.ok [], s)
  | q :: rest, s =>
    match store.query q s with
    | (.error e, s) => (.error e, s)
    | (.ok rows, s) =>
      match store.queryAll rest s with
      | (.error e, s) => (.error e, s)
      | (.ok results, s) => (.ok (rows :: results), s)

/-- Further statements are only run if the first one has rows. -/
def queryAllIfAny (store : Store σ) (first : Bound) (others : List Bound) (s : σ) :
    Except StoreError (Option (List Row × List (List Row))) × σ :=
  match store.query first s with
  | (.error e, s) => (.error e, s)
  | (.ok [], s) => (.ok none, s)
  | (.ok rows, s) =>
    match store.queryAll others s with
    | (.error e, s) => (.error e, s)
    | (.ok results, s) => (.ok (some (rows, results)), s)

end Store

end AspectQuery

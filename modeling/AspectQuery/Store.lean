import AspectQuery.Value
/-!
# Stores

A store answers statements with rows, inside a transaction. Its behaviour is a transition of a
state of its own, so that any sequence of answers and failures is the behaviour of some store.
-/

set_option autoImplicit false

namespace AspectQuery

inductive StoreError where
  | sqlite (message : String)
  | missingColumn (column : String)
  | unsupportedValue (column message : String)
  | other (message : String)
  deriving DecidableEq

namespace StoreError

def message : StoreError → String
  | .sqlite message => "SQLite error: " ++ message
  | .missingColumn column => "Result set has no column '" ++ column ++ "'"
  | .unsupportedValue column message =>
    "Unsupported value in column '" ++ column ++ "': " ++ message
  | .other message => message

end StoreError

structure Row where
  columns : List String
  values : List Value
  deriving DecidableEq

namespace Row

/-- Column names are compared without regard to the case of ASCII letters. -/
def sameName (a b : String) : Bool := a.toList.map Char.toLower == b.toList.map Char.toLower

/-- The value in the first column of a name. -/
def get? (r : Row) (column : String) : Option Value :=
  (r.columns.findIdx? fun c => sameName c column).bind fun i => r.values[i]?

def require (r : Row) (column : String) : Except StoreError Value :=
  match r.get? column with
  | some v => .ok v
  | none => .error (.missingColumn column)

end Row

/-- A statement with the values of its placeholders. -/
structure Bound where
  sql : String
  params : List Value
  deriving DecidableEq

structure Store (σ : Type) where
  start : σ → Except StoreError Unit × σ
  query : Bound → σ → Except StoreError (List Row) × σ
  commit : σ → Except StoreError Unit × σ
  rollback : σ → Except StoreError Unit × σ

/-- What a store is asked for. -/
inductive StoreEvent where
  | start
  | query (statement : Bound)
  | commit
  | rollback
  deriving DecidableEq

namespace Store

/-- The store with a record of what it was asked for, in order. -/
def recorded {σ : Type} (store : Store σ) : Store (σ × List StoreEvent) where
  start s := let (r, t) := store.start s.1; (r, t, s.2 ++ [.start])
  query q s := let (r, t) := store.query q s.1; (r, t, s.2 ++ [.query q])
  commit s := let (r, t) := store.commit s.1; (r, t, s.2 ++ [.commit])
  rollback s := let (r, t) := store.rollback s.1; (r, t, s.2 ++ [.rollback])

end Store

/-- Answers given in advance: the n-th statement gets the n-th result, and no rows when there are
no more. -/
structure Script where
  startError : Option StoreError := none
  commitError : Option StoreError := none
  rollbackError : Option StoreError := none
  results : List (Except StoreError (List Row)) := []

namespace Script

def outcome (e : Option StoreError) : Except StoreError Unit :=
  match e with
  | none => .ok ()
  | some e => .error e

def store : Store Script where
  start s := (outcome s.startError, s)
  query _ s :=
    match s.results with
    | [] => (.ok [], s)
    | r :: rest => (r, { s with results := rest })
  commit s := (outcome s.commitError, s)
  rollback s := (outcome s.rollbackError, s)

end Script

end AspectQuery

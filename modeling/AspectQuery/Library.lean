import AspectQuery.Query.Grouping
import AspectQuery.Query.Hydration
/-!
# Libraries

A library is a schema, options for all statements and a store. Every query is compiled against the
schema that the library has at that time; a schema that somebody has taken stays as it was.
-/

set_option autoImplicit false

namespace AspectQuery

structure Library (σ : Type) where
  schema : Schema
  options : Options := {}
  store : Store σ
  state : σ

namespace Library

variable {σ : Type}

def withOptions (l : Library σ) (options : Options) : Library σ := { l with options }

def replaceSchema (l : Library σ) (schema : Schema) : Library σ := { l with schema }

def compile (l : Library σ) (r : Request) : Except QueryError ItemQuery :=
  ItemQuery.ofRequest l.schema l.options r

def compileValues (l : Library σ) (path : AttributePath) (necessary : List AspectId)
    (filter : Option Filter) : Except QueryError ValueQuery :=
  ValueQuery.compile l.schema l.options path necessary filter

/-- Runs a query on the store; a query that does not compile leaves the store alone. -/
def run {α β : Type} (l : Library σ) (query : Except QueryError α)
    (execute : α → Store σ → σ → Except QueryError β × σ) : Except QueryError β × Library σ :=
  match query with
  | .error e => (.error e, l)
  | .ok q =>
    let (result, state) := execute q l.store l.state
    (result, { l with state })

def search (l : Library σ) (r : Request) : Except QueryError (List MediaItem) × Library σ :=
  l.run (l.compile r) fun q => q.execute

def loadItem (l : Library σ) (r : Request) (id : ItemId) :
    Except QueryError (Option MediaItem) × Library σ :=
  l.run (l.compile r) fun q => q.executeSingle id

def distinctValues (l : Library σ) (path : AttributePath) (necessary : List AspectId)
    (filter : Option Filter) : Except QueryError (List Value) × Library σ :=
  l.run (l.compileValues path necessary filter) fun q => q.executeDistinct

def valueGroups (l : Library σ) (path : AttributePath) (necessary : List AspectId)
    (filter : Option Filter) : Except QueryError (List ValueGroup) × Library σ :=
  l.run (l.compileValues path necessary filter) fun q => q.executeGrouped

def groupedValueGroups (l : Library σ) (path : AttributePath) (necessary : List AspectId)
    (filter : Option Filter) (grouping : Grouping) :
    Except QueryError (List ResultGroup) × Library σ :=
  let (groups, l) := l.valueGroups path necessary filter
  (groups.map (grouping.apply path), l)

end Library

end AspectQuery

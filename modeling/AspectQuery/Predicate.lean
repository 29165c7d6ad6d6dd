import AspectQuery.ByName
import AspectQuery.Predicate.Segment
import AspectQuery.Scope.JoinPlan
/-!
# Predicates

A predicate is a condition or no restriction at all. A filter becomes one by looking up its
attributes and giving its values the types that these declare. No restriction is dropped from a
conjunction, makes a disjunction unrestricted, and is negated to a condition that is never met.
-/

set_option autoImplicit false

namespace AspectQuery

structure Predicate where
  condition : Option Condition := none

namespace Predicate

def unrestricted : Predicate := {}

def isUnrestricted (p : Predicate) : Bool := p.condition.isNone

def negation (p : Predicate) : Condition :=
  match p.condition with
  | none => .never
  | some c => .not c

def combine (op : Connective) (ps : List Predicate) : Predicate :=
  if op = .or ∧ ps.any isUnrestricted then unrestricted
  else
    match ps.filterMap condition with
    | [] => unrestricted
    | [c] => ⟨some c⟩
    | cs => ⟨some (.junction op cs)⟩

/-- Both predicates, of which an unrestricted one is left out. -/
def conjoin (p q : Predicate) : Predicate := combine .and [p, q]

end Predicate

namespace CollectionRows

/-- The rows of a collection; none for values that stand in one column. -/
def ofStorage? (naming : Naming) : Storage → Option CollectionRows
  | .inline _ => none
  | .manyToOne _ _ => none
  | .oneToMany table => some (.direct table naming.itemIdColumn naming.valueColumn)
  | .manyToMany junction values =>
    some (.shared junction values naming.itemIdColumn naming.valueIdColumn naming.valueColumn)

end CollectionRows

namespace Subject

/-- Mentions a bounded attribute; a collection needs no column. -/
def ofAttribute (naming : Naming) (target : Attribute) (ms : Mentions) : Subject × Mentions :=
  match CollectionRows.ofStorage? naming target.storage with
  | some rows => (.collection target.path rows, ms)
  | none =>
    let (m, ms) := ms.add target
    (.column m, ms)

end Subject

/-- A value of the type that the attribute declares. -/
def Attribute.filterValue (target : Attribute) (v : Value) : Except QueryError Value :=
  (v.coerce target.valueType).mapError (.invalidFilterValue target.path)

namespace Predicate

/-- A condition on the attribute of a path. -/
def about (schema : Schema) (path : AttributePath) (ms : Mentions)
    (condition : Attribute → Subject → Except QueryError Condition) :
    Except QueryError (Predicate × Mentions) := do
  let target ← schema.find path
  let (subject, ms) := Subject.ofAttribute schema.naming target ms
  return (⟨some (← condition target subject)⟩, ms)

/-- A test on the attribute of a path. -/
def comparing (schema : Schema) (path : AttributePath) (ms : Mentions)
    (test : Attribute → Except QueryError Test) : Except QueryError (Predicate × Mentions) :=
  about schema path ms fun target subject => do return .test subject (← test target)

mutual

/-- The predicate of a filter; its mentions are added to those that are there. -/
def ofFilter (schema : Schema) (options : Options) :
    Filter → Mentions → Except QueryError (Predicate × Mentions)
  | .combine op operands, ms => do
    let (ps, ms) ← ofFilters schema options operands ms
    return (combine op ps, ms)
  | .not filter, ms => do
    let (p, ms) ← ofFilter schema options filter ms
    return (⟨some p.negation⟩, ms)
  | .empty path, ms => about schema path ms fun _ subject => return .isEmpty subject
  | .relational path op value, ms =>
    comparing schema path ms fun target => return .relational op (← target.filterValue value)
  | .like path pattern escape caseSensitive, ms =>
    comparing schema path ms fun _ => return .like pattern escape caseSensitive
  | .similarTo path pattern escape, ms =>
    comparing schema path ms fun _ =>
      if options.dialect.supportsSimilarTo then return .similarTo pattern escape
      else throw (.similarToUnsupported options.dialect)
  | .between path low high, ms =>
    comparing schema path ms fun target =>
      return .between (← target.filterValue low) (← target.filterValue high)
  | .among path values, ms =>
    comparing schema path ms fun target => do
      if values.isEmpty then throw (.emptyInList target.path)
      return .among (options.chunks (← values.mapM target.filterValue))
  | .itemIds ids, ms =>
    if ids.isEmpty then return (⟨some .never⟩, ms)
    else return (⟨some (.itemIds (options.chunks ids))⟩, ms)
  | .never, ms => return (⟨some .never⟩, ms)

def ofFilters (schema : Schema) (options : Options) :
    List Filter → Mentions → Except QueryError (List Predicate × Mentions)
  | [], ms => return ([], ms)
  | filter :: rest, ms => do
    let (p, ms) ← ofFilter schema options filter ms
    let (ps, ms) ← ofFilters schema options rest ms
    return (p :: ps, ms)

end

def ofFilter? (schema : Schema) (options : Options) (filter : Option Filter) (ms : Mentions) :
    Except QueryError (Predicate × Mentions) :=
  match filter with
  | none => .ok (unrestricted, ms)
  | some filter => ofFilter schema options filter ms

def segments (p : Predicate) : List Segment := (p.condition.map Condition.segments).getD []

def parts (p : Predicate) : List Part := Segment.number 0 p.segments

def params (p : Predicate) : List Value := Segment.params p.segments

def mentions (p : Predicate) : List Mention := (p.condition.map Condition.mentions).getD []

/-- The aspects of all attributes, collections included. -/
def aspects (p : Predicate) : List AspectId :=
  sortedNames ((p.condition.map Condition.aspects).getD [])

end Predicate

namespace JoinPlan

/-- The text of a segment, in which a question mark stands for a value. -/
def segmentText (p : JoinPlan) (anchor : Sql.Column) : Segment → Except QueryError String
  | .sql text => .ok text
  | .column m =>
    match p.column? m with
    | some c => do return (← p.tables.qualify c).text
    | none => .error (.unresolvedAttribute m.target.path)
  | .value _ => .ok "?"
  | .anchor => .ok anchor.text

/-- Puts a predicate into the statement of a plan. -/
def bind (p : JoinPlan) (anchor : Sql.Column) (predicate : Predicate) :
    Except QueryError Bound := do
  let texts ← predicate.segments.mapM (p.segmentText anchor)
  return ⟨String.join texts, predicate.params⟩

end JoinPlan

end AspectQuery

import AspectQuery.Proofs.Predicate.Rendering
/-!
# Writing in one pass

A filter can be put into writing from left to right, with no condition in between. What is collected
on the way grows, but an OR without a restriction drops what its operands have collected.
-/

set_option autoImplicit false

namespace AspectQuery

/-- What has been collected: the values, the bounded attributes and the aspects of the filters that
were written, and the mentions of the query. -/
structure Draft where
  params : List Value := []
  attributes : List (Nat × AttributePath) := []
  aspects : List AspectId := []
  mentions : Mentions

namespace Draft

def push (d : Draft) (v : Value) : Draft := { d with params := d.params ++ [v] }

/-- The aspect is needed from then on. -/
def need (d : Draft) (a : AspectId) : Draft := { d with aspects := sortedNames (d.aspects ++ [a]) }

/-- A bounded attribute and its part. -/
def mention (d : Draft) (target : Attribute) : Part × Draft :=
  let (m, ms) := d.mentions.add target
  (.attribute m.index,
    { d with attributes := d.attributes ++ [(m.index, target.path)], mentions := ms })

/-- Drops what was collected behind an earlier draft. The mentions keep their numbers. -/
def rollback (d earlier : Draft) : Draft where
  params := d.params.take earlier.params.length
  attributes := d.attributes.take earlier.attributes.length
  aspects := earlier.aspects
  mentions := d.mentions

end Draft

namespace Part

/-- The lists one after another with a text between each two. -/
def separated (separator : String) (pss : List (List Part)) : List Part :=
  (pss.intersperse [.sql separator]).flatten

def grouped (separator : String) : List (List Part) → List Part
  | [ps] => ps
  | pss => .sql "(" :: separated separator pss ++ [.sql ")"]

def escape : Option Char → List Part
  | none => []
  | some c => [.sql (" ESCAPE " ++ Sql.quote (String.singleton c))]

/-- Operands without parts have been left out before. -/
def junction (op : Connective) : List (List Part) → List Part
  | [] => []
  | pss => grouped op.sql pss

end Part

namespace Draft

section Tests

/-- The values one after another, each in the next place. -/
def values (coerce : Value → Except QueryError Value) :
    List Value → Draft → Except QueryError (List Part × Draft)
  | [], d => return ([], d)
  | v :: vs, d => do
    let w ← coerce v
    let (ps, d') ← values coerce vs (d.push w)
    return (.param d.params.length :: ps, d')

/-- The tests whether the operand is in a list, one for each list. -/
def clusters (coerce : Value → Except QueryError Value) (operand : Part) :
    List (List Value) → Draft → Except QueryError (List (List Part) × Draft)
  | [], d => return ([], d)
  | vs :: chunks, d => do
    let (ps, d) ← values coerce vs d
    let (pss, d) ← clusters coerce operand chunks d
    let list := Part.separated ", " (ps.map fun p => [p])
    let cluster := [operand, .sql " IN ("] ++ list ++ [.sql ")"]
    return (cluster :: pss, d)

def relational (op : Relation) (v : Value) (target : Attribute) (operand : Part) (d : Draft) :
    Except QueryError (List Part × Draft) := do
  let w ← target.filterValue v
  return ([operand, .sql (" " ++ op.sql ++ " "), .param d.params.length], d.push w)

def like (pattern : String) (escape : Option Char) (caseSensitive : Bool) (operand : Part)
    (d : Draft) : Except QueryError (List Part × Draft) :=
  let param := .param d.params.length
  let parts :=
    if caseSensitive then [operand, .sql " LIKE ", param]
    else [.sql "UPPER(", operand, .sql ") LIKE UPPER(", param, .sql ")"]
  return (parts ++ Part.escape escape, d.push (.text pattern))

def similarTo (options : Options) (pattern : String) (escape : Option Char) (operand : Part)
    (d : Draft) : Except QueryError (List Part × Draft) :=
  if options.dialect.supportsSimilarTo then
    return ([operand, .sql " SIMILAR TO ", .param d.params.length] ++ Part.escape escape,
      d.push (.text pattern))
  else throw (.similarToUnsupported options.dialect)

def between (low high : Value) (target : Attribute) (operand : Part) (d : Draft) :
    Except QueryError (List Part × Draft) := do
  let l ← target.filterValue low
  let h ← target.filterValue high
  let parts := [operand, .sql " BETWEEN ", .param d.params.length, .sql " AND ",
    .param (d.push l).params.length]
  return (parts, (d.push l).push h)

def among (options : Options) (vs : List Value) (target : Attribute) (operand : Part) (d : Draft) :
    Except QueryError (List Part × Draft) := do
  if vs.isEmpty then throw (.emptyInList target.path)
  let (pss, d) ← clusters target.filterValue operand (options.chunks vs) d
  return (Part.grouped Connective.or.sql pss, d)

end Tests

section Filters

variable (schema : Schema) (options : Options)

def find (path : AttributePath) (d : Draft) : Except QueryError (Attribute × Draft) := do
  let target ← schema.find path
  return (target, d.need target.aspect)

def comparing (path : AttributePath)
    (test : Attribute → Part → Draft → Except QueryError (List Part × Draft)) (d : Draft) :
    Except QueryError (List Part × Draft) := do
  let (target, d) ← d.find schema path
  match CollectionRows.ofStorage? schema.naming target.storage with
  | none =>
    let (operand, d) := d.mention target
    test target operand d
  | some rows =>
    let (ps, d) ← test target (.sql rows.valueColumn) d
    return ([.sql rows.existence, .anchor, .sql " AND "] ++ ps ++ [.sql ")"], d)

def empty (path : AttributePath) (d : Draft) : Except QueryError (List Part × Draft) := do
  let (target, d) ← d.find schema path
  match CollectionRows.ofStorage? schema.naming target.storage with
  | none =>
    let (operand, d) := d.mention target
    return ([operand, .sql " IS NULL"], d)
  | some rows => return ([.sql ("NOT " ++ rows.existence), .anchor, .sql " )"], d)

mutual

/-- Writes a filter behind what was written before. -/
def write : Filter → Draft → Except QueryError (List Part × Draft)
  | .combine op operands, d => do
    let (pss, d') ← writeAll operands d
    if op = .or ∧ pss.any List.isEmpty then return ([], d'.rollback d)
    return (Part.junction op (pss.filter fun ps => !ps.isEmpty), d')
  | .not filter, d => do
    let (ps, d) ← write filter d
    if ps.isEmpty then return ([.sql "1 = 2"], d)
    return (.sql "NOT (" :: ps ++ [.sql ")"], d)
  | .empty path, d => d.empty schema path
  | .relational path op v, d => d.comparing schema path (relational op v)
  | .like path pattern escape caseSensitive, d =>
    d.comparing schema path fun _ => like pattern escape caseSensitive
  | .similarTo path pattern escape, d =>
    d.comparing schema path fun _ => similarTo options pattern escape
  | .between path low high, d => d.comparing schema path (between low high)
  | .among path vs, d => d.comparing schema path (among options vs)
  | .itemIds ids, d => do
    if ids.isEmpty then return ([.sql "1 = 2"], d)
    let (pss, d) ← clusters pure .anchor ((options.chunks ids).map fun ids => ids.map Value.id) d
    return (Part.grouped Connective.or.sql pss, d)
  | .never, d => return ([.sql "1 = 2"], d)

def writeAll : List Filter → Draft → Except QueryError (List (List Part) × Draft)
  | [], d => return ([], d)
  | filter :: rest, d => do
    let (ps, d) ← write filter d
    let (pss, d) ← writeAll rest d
    return (ps :: pss, d)

end

end Filters

end Draft

/-- Writes a filter on its own; its mentions are added to those that are there. -/
def Rendering.ofFilter (schema : Schema) (options : Options) (filter : Filter) (ms : Mentions) :
    Except QueryError (Rendering × Mentions) := do
  let (parts, d) ← Draft.write schema options filter { mentions := ms }
  return (⟨parts, d.params, d.attributes, d.aspects⟩, d.mentions)

end AspectQuery

import AspectQuery.Filter
/-!
# Filters as documents

A filter is a record whose member `kind` tells what the other members are, or a list that starts
with the kind. Inside another filter the kind may also be given by its number.
-/

set_option autoImplicit false

namespace AspectQuery.Filter

def kinds : List String :=
  ["combine", "not", "empty", "relational", "like", "similar_to", "between", "in", "item_ids",
    "false"]

def kind? (nested : Bool) : Document → Option String
  | .text s => if s ∈ kinds then some s else none
  | .integer i => if nested ∧ 0 ≤ i then kinds[i.toNat]? else none
  | _ => none

/-- The kind of a filter, and the document of its other members. -/
def tagged? (nested : Bool) : Document → Option (String × Document)
  | .record members => do
    let kind ← Document.required (kind? nested) (← Document.member? members "kind")
    return (kind, .record (members.filter fun m => m.1 != "kind"))
  | .list (kind :: rest) => (kind? nested kind).map fun kind => (kind, .list rest)
  | _ => none

def connective? (d : Document) : Option Connective :=
  (d.name? .tagged).bind Connective.ofName?

def relation? (d : Document) : Option Relation :=
  (d.name? .tagged).bind Relation.ofName?

def path? (d : Option Document) : Option AttributePath :=
  Document.required (AttributePath.ofDocument? .tagged) d

def escape? (d : Option Document) : Option (Option Char) :=
  Document.defaulted (Document.optional? Document.character?) none d

def itemId? (d : Document) : Option ItemId := d.text?.bind ItemId.ofText?

/-- Reads a filter at most `depth` filters deep. -/
def ofDocumentWithin? : Nat → Bool → Document → Option Filter
  | 0, _, _ => none
  | depth + 1, nested, d => do
    let (kind, body) ← tagged? nested d
    match kind with
    | "combine" =>
      match ← body.members? .tagged ["op", "operands"] with
      | [op, operands] =>
        return .combine (← Document.required connective? op)
          (← Document.required (Document.list? (ofDocumentWithin? depth true)) operands)
      | _ => none
    | "not" =>
      match ← body.members? .tagged ["filter"] with
      | [filter] => return .not (← Document.required (ofDocumentWithin? depth true) filter)
      | _ => none
    | "empty" =>
      match ← body.members? .tagged ["attribute"] with
      | [path] => return .empty (← path? path)
      | _ => none
    | "relational" =>
      match ← body.members? .tagged ["attribute", "op", "value"] with
      | [path, op, value] =>
        return .relational (← path? path) (← Document.required relation? op)
          (← Document.required Value.ofDocument? value)
      | _ => none
    | "like" =>
      match ← body.members? .tagged ["attribute", "pattern", "escape", "case_sensitive"] with
      | [path, pattern, escape, caseSensitive] =>
        return .like (← path? path) (← Document.required Document.text? pattern)
          (← escape? escape) (← Document.defaulted Document.boolean? true caseSensitive)
      | _ => none
    | "similar_to" =>
      match ← body.members? .tagged ["attribute", "pattern", "escape"] with
      | [path, pattern, escape] =>
        return .similarTo (← path? path) (← Document.required Document.text? pattern)
          (← escape? escape)
      | _ => none
    | "between" =>
      match ← body.members? .tagged ["attribute", "low", "high"] with
      | [path, low, high] =>
        return .between (← path? path) (← Document.required Value.ofDocument? low)
          (← Document.required Value.ofDocument? high)
      | _ => none
    | "in" =>
      match ← body.members? .tagged ["attribute", "values"] with
      | [path, values] =>
        return .among (← path? path)
          (← Document.required (Document.list? Value.ofDocument?) values)
      | _ => none
    | "item_ids" =>
      match ← body.members? .tagged ["ids"] with
      | [ids] => return .itemIds (← Document.required (Document.list? itemId?) ids)
      | _ => none
    | "false" =>
      match body with
      | .list (_ :: _) => none
      | _ => return .never
    | _ => none

/-- No filter is deeper than its document. -/
def ofDocument? (d : Document) : Option Filter :=
  if d.readable then ofDocumentWithin? (d.nesting + 1) false d else none

/-- How deep the text of a filter may be nested. -/
def nestingLimit : Nat := 127

/-- The filter that a text in JSON spells. -/
def ofJson? (text : String) : Option Filter := do
  let d ← Json.read? text
  if d.nesting ≤ nestingLimit then ofDocument? d else none

def escapeDocument : Option Char → Document
  | none => .null
  | some c => .text (String.singleton c)

mutual

def document : Filter → Document
  | .combine op operands =>
    .record [("kind", .text "combine"), ("op", .text op.name),
      ("operands", .list (documents operands))]
  | .not filter => .record [("kind", .text "not"), ("filter", filter.document)]
  | .empty path => .record [("kind", .text "empty"), ("attribute", path.document)]
  | .relational path op value =>
    .record [("kind", .text "relational"), ("attribute", path.document), ("op", .text op.name),
      ("value", value.document)]
  | .like path pattern escape caseSensitive =>
    .record [("kind", .text "like"), ("attribute", path.document), ("pattern", .text pattern),
      ("escape", escapeDocument escape), ("case_sensitive", .boolean caseSensitive)]
  | .similarTo path pattern escape =>
    .record [("kind", .text "similar_to"), ("attribute", path.document),
      ("pattern", .text pattern), ("escape", escapeDocument escape)]
  | .between path low high =>
    .record [("kind", .text "between"), ("attribute", path.document), ("low", low.document),
      ("high", high.document)]
  | .among path values =>
    .record [("kind", .text "in"), ("attribute", path.document),
      ("values", .list (values.map Value.document))]
  | .itemIds ids =>
    .record [("kind", .text "item_ids"), ("ids", .list (ids.map fun id => .text id.text))]
  | .never => .record [("kind", .text "false")]

def documents : List Filter → List Document
  | [] => []
  | filter :: rest => filter.document :: documents rest

end

end AspectQuery.Filter

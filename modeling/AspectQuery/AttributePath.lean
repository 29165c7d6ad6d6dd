import AspectQuery.Document
/-!
# Attribute paths

An attribute is named by its aspect and by its name within that aspect.
-/

set_option autoImplicit false

namespace AspectQuery

/-- The id of an aspect type. -/
abbrev AspectId := String

structure AttributePath where
  aspect : AspectId
  name : String
  deriving DecidableEq

namespace AttributePath

def text (p : AttributePath) : String := p.aspect ++ "." ++ p.name

/-- Splits at the first point; both parts have to be there. -/
def ofText? (s : String) : Option AttributePath :=
  let aspect := s.toList.takeWhile (· != '.')
  match s.toList.dropWhile (· != '.') with
  | [] => none
  | _ :: name =>
    if aspect.isEmpty || name.isEmpty then none
    else some ⟨String.ofList aspect, String.ofList name⟩

def ofDocument? (conv : Document.Conventions) (d : Document) : Option AttributePath := do
  match ← d.members? conv ["aspect", "attribute"] with
  | [aspect, name] =>
    return ⟨← Document.required Document.text? aspect, ← Document.required Document.text? name⟩
  | _ => none

def document (p : AttributePath) : Document :=
  .record [("aspect", .text p.aspect), ("attribute", .text p.name)]

end AttributePath

end AspectQuery

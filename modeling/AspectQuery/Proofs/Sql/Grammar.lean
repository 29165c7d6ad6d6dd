import AspectQuery.Proofs.Sql.Lexing
/-!
# How conditions are put together

What the lexemes of a condition are read as, for the ways in which conditions are put together: a
test, NOT, AND and OR, parentheses, and a subquery. Each rule tells what the parts are read as and
what the whole is read as.
-/

set_option autoImplicit false

namespace AspectQuery.Sql

/-- An escape clause would belong to the test before it. -/
def Unescaped (ls : List Lexeme) : Prop := ls.head? ≠ some (.word "ESCAPE")

theorem escape?_of_unescaped {ls : List Lexeme} (h : Unescaped ls) : escape? ls = (none, ls) := by
  fun_cases escape? ls with
  | case1 s ls => exact absurd rfl h
  | case2 => rfl

@[simp] theorem items?_nil : items? [] = some [] := by
  unfold items?
  rfl

theorem items?_of_item? {ls rest : List Lexeme} {i : Item} (h : item? ls = some (i, rest)) :
    items? ls = (items? rest).map (i :: ·) := by
  cases ls with
  | nil => simp [item?, operand?] at h
  | cons l ls =>
    rw [items?]
    split
    · rename_i j rest' h'
      rw [h, Option.some.injEq, Prod.mk.injEq] at h'
      rw [h'.1, h'.2]
    · rename_i h'
      simp [h] at h'

/-- The lexemes are cut into the items, whatever stands behind them but an escape clause. -/
def Cuts (ls : List Lexeme) (is : List Item) : Prop :=
  ∀ rest, Unescaped rest → items? (ls ++ rest) = (items? rest).map (is ++ ·)

namespace Cuts

variable {ls ks : List Lexeme} {is js : List Item}

theorem ofItem {i : Item} (h : ∀ rest, Unescaped rest → item? (ls ++ rest) = some (i, rest)) :
    Cuts ls [i] := by
  intro rest hrest
  exact items?_of_item? (h rest hrest)

theorem append (hls : Cuts ls is) (hks : Cuts ks js) (hhead : ∀ rest, Unescaped rest →
    Unescaped (ks ++ rest)) : Cuts (ls ++ ks) (is ++ js) := by
  intro rest hrest
  rw [List.append_assoc, hls _ (hhead rest hrest), hks rest hrest, Option.map_map]
  congr 1
  funext is'
  exact (List.append_assoc ..).symm

theorem openParen : Cuts [.openParen] [.openParen] := ofItem fun _ _ => rfl

theorem closeParen : Cuts [.closeParen] [.closeParen] := ofItem fun _ _ => rfl

theorem not : Cuts [.word "NOT"] [.not] := ofItem fun _ _ => rfl

theorem and : Cuts [.word "AND"] [.and] := ofItem fun _ _ => rfl

theorem or : Cuts [.word "OR"] [.or] := ofItem fun _ _ => rfl

end Cuts

theorem unescaped_cons {l : Lexeme} (h : l ≠ .word "ESCAPE") (ls : List Lexeme) :
    Unescaped (l :: ls) := by
  simpa [Unescaped] using h

/-- A condition that an operator around it takes as one operand. -/
structure Reads (ls : List Lexeme) (f : Formula) : Prop where
  unescaped : ∀ rest, Unescaped rest → Unescaped (ls ++ rest)
  items : ∃ is, Cuts ls is ∧ ∀ outer o js,
    readOperand outer o (is ++ js) = readConnective outer (o.close f) js

/-- A condition that stands by itself or between parentheses. -/
structure ReadsAll (ls : List Lexeme) (c : Clause) : Prop where
  unescaped : ∀ rest, Unescaped rest → Unescaped (ls ++ rest)
  items : ∃ is, Cuts ls is ∧ ∀ outer js,
    readOperand outer {} (is ++ js) = readConnective outer c js

theorem negated_not (f : Formula) (n : Nat) : f.not.negated n = f.negated (n + 1) := by
  induction n with
  | zero => rfl
  | succ n ih => rw [Formula.negated, ih]; rfl

namespace Reads

variable {ls ks : List Lexeme} {f g : Formula}

theorem test (hhead : ∀ rest, Unescaped (ls ++ rest))
    (h : ∀ rest, Unescaped rest → item? (ls ++ rest) = some (.test f, rest)) : Reads ls f :=
  ⟨fun rest _ => hhead rest, [.test f], .ofItem h, fun _ _ _ => rfl⟩

theorem not (h : Reads ls f) : Reads (.word "NOT" :: ls) f.not := by
  obtain ⟨hls, is, hcuts, hread⟩ := h
  refine ⟨fun _ _ => unescaped_cons (by simp) _, .not :: is, Cuts.not.append hcuts hls, ?_⟩
  intro outer o js
  rw [List.cons_append, readOperand, hread]
  simp only [Opening.close, negated_not]

theorem all (h : Reads ls f) : ReadsAll ls ⟨none, f⟩ := by
  obtain ⟨hls, is, hcuts, hread⟩ := h
  exact ⟨hls, is, hcuts, fun outer js => hread outer {} js⟩

end Reads

namespace ReadsAll

variable {ls ks : List Lexeme} {c : Clause} {g : Formula}

theorem and (h : ReadsAll ls c) (hks : Reads ks g) :
    ReadsAll (ls ++ .word "AND" :: ks) (c.and.close g) := by
  obtain ⟨hls, is, hcuts, hread⟩ := h
  obtain ⟨hhead, js, hcuts', hread'⟩ := hks
  refine ⟨?_, is ++ .and :: js, ?_, ?_⟩
  · intro rest _
    rw [List.append_assoc]
    exact hls _ (unescaped_cons (by simp) _)
  · exact hcuts.append (Cuts.and.append hcuts' hhead) fun rest _ => unescaped_cons (by simp) _
  · intro outer js'
    rw [List.append_assoc, hread, List.cons_append, readConnective, hread']

theorem or (h : ReadsAll ls c) (hks : Reads ks g) :
    ReadsAll (ls ++ .word "OR" :: ks) (c.or.close g) := by
  obtain ⟨hls, is, hcuts, hread⟩ := h
  obtain ⟨hhead, js, hcuts', hread'⟩ := hks
  refine ⟨?_, is ++ .or :: js, ?_, ?_⟩
  · intro rest _
    rw [List.append_assoc]
    exact hls _ (unescaped_cons (by simp) _)
  · exact hcuts.append (Cuts.or.append hcuts' hhead) fun rest _ => unescaped_cons (by simp) _
  · intro outer js'
    rw [List.append_assoc, hread, List.cons_append, readConnective, hread']

/-- Parentheses around a condition, which may be those of a subquery. -/
theorem enclose {i : Item} {rows : Option Subquery} (h : ReadsAll ls c) (hhead : ∀ rest,
    Unescaped (ks ++ rest)) (hks : Cuts ks [i]) (hi : ∀ outer o js, readOperand outer o (i :: js) =
      readOperand ((rows, o) :: outer) {} js) :
    Reads (ks ++ (ls ++ [.closeParen])) (enclosed rows c.formula) := by
  obtain ⟨hls, is, hcuts, hread⟩ := h
  have hclose : ∀ rest, Unescaped rest → Unescaped ([.closeParen] ++ rest) :=
    fun rest _ => unescaped_cons (by simp) rest
  refine ⟨?_, i :: (is ++ [.closeParen]), ?_, ?_⟩
  · intro rest _
    rw [List.append_assoc]
    exact hhead _
  · refine hks.append (hcuts.append Cuts.closeParen hclose) fun rest _ => ?_
    rw [List.append_assoc]
    exact hls _ (unescaped_cons (by simp) _)
  · intro outer o js
    rw [List.cons_append, hi, List.append_assoc, hread, List.cons_append, readConnective]
    rfl

theorem parens (h : ReadsAll ls c) :
    Reads (.openParen :: (ls ++ [.closeParen])) c.formula :=
  h.enclose (fun _ => unescaped_cons (by simp) _) Cuts.openParen fun _ _ _ => rfl

theorem existence {rows : Subquery} {qs : List Lexeme} (h : ReadsAll ls c)
    (hqs : ∀ rest, subquery? (qs ++ rest) = some (rows, rest)) :
    Reads (.word "EXISTS" :: qs ++ (ls ++ [.closeParen])) (.existence rows c.formula) := by
  have hhead : ∀ rest, Unescaped (.word "EXISTS" :: qs ++ rest) :=
    fun _ => unescaped_cons (by simp) _
  have hcuts : Cuts (.word "EXISTS" :: qs) [.existence rows] :=
    .ofItem fun rest _ => by simp [item?, hqs]
  exact h.enclose hhead hcuts fun _ _ _ => rfl

theorem formula (h : ReadsAll ls c) : (items? ls).bind (readOperand [] {}) = some c.formula := by
  obtain ⟨-, is, hcuts, hread⟩ := h
  have hitems := hcuts [] (by simp [Unescaped])
  rw [List.append_nil] at hitems
  rw [hitems, items?_nil]
  simpa [readConnective] using hread [] []

end ReadsAll

end AspectQuery.Sql

import AspectQuery.Proofs.Predicate.Compiled
import AspectQuery.Proofs.Predicate.Places
/-!
# The references of predicates

The parts of a predicate refer to its mentions from left to right. A mention is referred to once for
each list of values with which it is compared, so that the references to one mention stand in a row.
-/

set_option autoImplicit false

namespace AspectQuery

/-- The first list is the second one with each element once or several times in a row. -/
inductive Stutters {α : Type} : List α → List α → Prop where
  | nil : Stutters [] []
  | cons {xs ys : List α} (x : α) (n : Nat) (h : Stutters xs ys) :
      Stutters (List.replicate (n + 1) x ++ xs) (x :: ys)

namespace Stutters

variable {α β : Type} {xs ys xs' ys' : List α}

theorem replicate (x : α) (n : Nat) : Stutters (List.replicate (n + 1) x) [x] := by
  have h := Stutters.nil.cons x n
  rwa [List.append_nil] at h

theorem append (h : Stutters xs ys) (h' : Stutters xs' ys') :
    Stutters (xs ++ xs') (ys ++ ys') := by
  induction h with
  | nil => exact h'
  | cons x n h ih =>
    rw [List.append_assoc]
    exact ih.cons x n

theorem map (f : α → β) (h : Stutters xs ys) : Stutters (xs.map f) (ys.map f) := by
  induction h with
  | nil => exact .nil
  | cons x n h ih =>
    rw [List.map_append, List.map_replicate]
    exact ih.cons (f x) n

theorem mem_iff (h : Stutters xs ys) {y : α} : y ∈ xs ↔ y ∈ ys := by
  induction h with
  | nil => rfl
  | cons x n h ih => simp [ih]

/-- Without repetitions it is the second list, if this has none. -/
theorem eraseDups_eq [BEq α] [LawfulBEq α] (h : Stutters xs ys) (hys : ys.Nodup) :
    xs.eraseDups = ys := by
  induction h with
  | nil => rfl
  | @cons xs ys x n h ih =>
    obtain ⟨hx, hys⟩ := List.nodup_cons.mp hys
    have hfilter : xs.filter (fun y => !y == x) = xs := by
      refine List.filter_eq_self.mpr fun y hy => ?_
      simpa using fun heq : y = x => hx (heq ▸ h.mem_iff.mp hy)
    rw [List.replicate_succ, List.cons_append, List.eraseDups_cons, List.filter_append, hfilter,
      List.filter_replicate_of_neg (by simp), List.nil_append, ih hys]

end Stutters

def Part.index? : Part → Option Nat
  | .attribute index => some index
  | _ => none

namespace Segment

theorem indices_number (n : Nat) (ss : List Segment) :
    (number n ss).filterMap Part.index? = (columns ss).map Mention.index := by
  induction ss generalizing n with
  | nil => rfl
  | cons s ss ih =>
    cases s with
    | column m => exact congrArg (m.index :: ·) (ih n)
    | _ => exact ih _

end Segment

theorem Test.lists_ne_nil {t : Test} (ht : t.Proper) : t.lists ≠ [] := by
  cases t with
  | among chunks => exact ht.1
  | _ => exact List.cons_ne_nil _ _

namespace Condition

open Segment (columns)

theorem stutters_columns_test (s : Subject) {t : Test} (ht : t.Proper) :
    Stutters (columns (test s t).segments) s.mentions := by
  rw [columns_test]
  cases s with
  | column m =>
    have hcolumns : (t.lists.flatMap fun _ => [m]) = List.replicate t.lists.length m := by
      rw [← List.map_const']
      exact List.map_eq_flatMap.symm
    obtain ⟨n, hn⟩ := Nat.exists_eq_add_one.mpr (List.length_pos_of_ne_nil (t.lists_ne_nil ht))
    rw [Subject.mentions, hcolumns, hn]
    exact .replicate m n
  | collection path rows =>
    have hcolumns : (t.lists.flatMap fun _ => ([] : List Mention)) = [] :=
      List.flatMap_eq_nil_iff.mpr fun _ _ => rfl
    rw [Subject.mentions, hcolumns]
    exact .nil

mutual

theorem stutters_columns (c : Condition) (hc : c.Proper) :
    Stutters (columns c.segments) c.mentions := by
  cases c with
  | never => exact .nil
  | not c => exact c.columns_not ▸ stutters_columns c hc
  | junction op operands =>
    exact columns_junction op operands ▸ stutters_columnsOfAll operands hc.2
  | isEmpty s =>
    rw [columns_isEmpty]
    cases s with
    | column m => exact .replicate m 0
    | collection path rows => exact .nil
  | test s t => exact stutters_columns_test s hc.2
  | itemIds chunks => exact columns_itemIds chunks ▸ .nil

theorem stutters_columnsOfAll (cs : List Condition) (hcs : ProperAll cs) :
    Stutters (cs.flatMap fun c => columns c.segments) (mentionsOfAll cs) := by
  cases cs with
  | nil => exact .nil
  | cons c cs => exact (stutters_columns c hcs.1).append (stutters_columnsOfAll cs hcs.2)

end

end Condition

/-- From left to right, the parts of a predicate refer to its mentions one after another. -/
theorem Predicate.Compiled.stutters {schema : Schema} {ms : Mentions} {p : Predicate}
    (hp : p.Compiled schema ms) :
    Stutters (p.parts.filterMap Part.index?) (p.mentions.map Mention.index) := by
  rw [parts, Segment.indices_number]
  obtain ⟨_ | c⟩ := p
  · exact .nil
  · exact (c.stutters_columns (hp c rfl).proper).map Mention.index

end AspectQuery

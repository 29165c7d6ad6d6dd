import AspectQuery.Scope.Aliases
import AspectQuery.Sql.Identifier
import Mathlib.Data.List.Nodup
import Mathlib.Data.Nat.Find
import Mathlib.Order.Bounds.Defs
/-!
# Namespaces give out new aliases

A number that is not in use is always found, so that no alias is given out twice. All aliases are a
stem with a number behind it.
-/

set_option autoImplicit false

namespace AspectQuery

namespace Aliases

theorem repr_injective : Function.Injective Nat.repr := by
  intro m n h
  have hdigits : Nat.toDigits 10 m = Nat.toDigits 10 n := by
    simpa using congrArg String.toList h
  have hvalue := congrArg (fun cs => Nat.ofDigitChars 10 cs 0) hdigits
  simpa using hvalue

theorem numbered_injective (stem : String) : Function.Injective (numbered stem) := by
  intro m n h
  apply repr_injective
  apply String.ext
  simpa [numbered] using congrArg String.toList h

theorem exists_numbered_notMem (used : List String) (stem : String) :
    ∃ c ∈ (List.range (used.length + 1)).map (numbered stem), c ∉ used := by
  refine Classical.byContradiction fun hnone => ?_
  have hsubset : (List.range (used.length + 1)).map (numbered stem) ⊆ used := by
    intro c hc
    exact Classical.byContradiction fun hnew => hnone ⟨c, hc, hnew⟩
  have hnodup : ((List.range (used.length + 1)).map (numbered stem)).Nodup :=
    List.nodup_range.map (numbered_injective stem)
  have hlength := hnodup.length_le_of_subset hsubset
  simp only [List.length_map, List.length_range] at hlength
  omega

theorem fresh_eq {used : List String} {stem : String} {n : Nat}
    (hused : ∀ m < n, numbered stem m ∈ used) (hnew : numbered stem n ∉ used) :
    fresh used stem = numbered stem n := by
  have hlength : n ≤ used.length := by
    have hnodup : ((List.range n).map (numbered stem)).Nodup :=
      List.nodup_range.map (numbered_injective stem)
    have hsubset : (List.range n).map (numbered stem) ⊆ used := by
      intro s hs
      obtain ⟨m, hm, rfl⟩ := List.mem_map.mp hs
      exact hused m (List.mem_range.mp hm)
    simpa using hnodup.length_le_of_subset hsubset
  have hfind : (List.range (used.length + 1)).find? ((fun c => decide (c ∉ used)) ∘ numbered stem) =
      some n := by
    rw [List.find?_range_eq_some]
    refine ⟨by simpa using hnew, List.mem_range.mpr (by omega), fun m hm => ?_⟩
    simpa using hused m hm
  rw [fresh, List.find?_map, hfind]
  rfl

/-- The alias has the least number that makes it new. -/
theorem fresh_isLeast (used : List String) (stem : String) :
    ∃ n, IsLeast {n | numbered stem n ∉ used} n ∧ fresh used stem = numbered stem n := by
  obtain ⟨c, hc, hnew⟩ := exists_numbered_notMem used stem
  obtain ⟨k, -, rfl⟩ := List.mem_map.mp hc
  have hfree : ∃ n, numbered stem n ∉ used := ⟨k, hnew⟩
  refine ⟨Nat.find hfree, ⟨Nat.find_spec hfree, fun m hm => Nat.find_le hm⟩, ?_⟩
  exact fresh_eq (fun m hm => not_not.mp (Nat.find_min hfree hm)) (Nat.find_spec hfree)

theorem fresh_spec (used : List String) (stem : String) :
    fresh used stem ∉ used ∧ ∃ n, fresh used stem = numbered stem n := by
  obtain ⟨n, ⟨hnew, -⟩, heq⟩ := fresh_isLeast used stem
  exact ⟨heq ▸ hnew, n, heq⟩

section

variable {κ : Type} {a : Aliases κ}

theorem nodup_append_fresh (h : a.used.Nodup) (key : κ) (stem : String) :
    (used ⟨a.entries ++ [(key, fresh a.used stem)]⟩).Nodup := by
  have hused : used ⟨a.entries ++ [(key, fresh a.used stem)]⟩ =
      a.used ++ [fresh a.used stem] := by
    simp [used]
  rw [hused, List.nodup_append]
  refine ⟨h, List.nodup_singleton _, ?_⟩
  rintro s hs _ ht rfl
  rw [List.mem_singleton] at ht
  exact (fresh_spec a.used stem).1 (ht ▸ hs)

variable [DecidableEq κ] {key k k' : κ} {stem s : String}

theorem mem_used_of_get? (h : a.get? key = some s) : (key, s) ∈ a.entries := by
  obtain ⟨e, he, rfl⟩ := Option.map_eq_some_iff.mp h
  have hkey : e.1 = key := by simpa using List.find?_some he
  exact hkey ▸ List.mem_of_find?_eq_some he

theorem allot_of_none (h : a.get? key = none) :
    a.allot key stem = (fresh a.used stem, ⟨a.entries ++ [(key, fresh a.used stem)]⟩) := by
  simp only [allot, h]

theorem key_eq_of_get? (h : a.used.Nodup) (hk : a.get? k = some s) (hk' : a.get? k' = some s) :
    k = k' :=
  congrArg Prod.fst
    (List.inj_on_of_nodup_map h (mem_used_of_get? hk) (mem_used_of_get? hk') rfl)

theorem get?_append (a : Aliases κ) (key k : κ) (s : String) :
    get? ⟨a.entries ++ [(key, s)]⟩ k = (a.get? k).or (if key = k then some s else none) := by
  simp only [get?, List.find?_append]
  cases a.entries.find? fun e => e.1 = k with
  | some e => rfl
  | none => by_cases h : key = k <;> simp [h]

theorem get?_allot_of_ne (hne : key ≠ k) (a : Aliases κ) (stem : String) :
    (a.allot key stem).2.get? k = a.get? k := by
  cases hget : a.get? key with
  | some s => simp only [allot, hget]
  | none => rw [allot_of_none hget, get?_append, if_neg hne, Option.or_none]

theorem get?_allot (a : Aliases κ) (key : κ) (stem : String) :
    (a.allot key stem).2.get? key = some (a.allot key stem).1 := by
  cases hget : a.get? key with
  | some t => simp only [allot, hget]
  | none => rw [allot_of_none hget, get?_append, hget, Option.none_or, if_pos rfl]

end

end Aliases

/-- An alias as statements have it: a letter and a number. -/
def IsAlias (s : String) : Prop :=
  ∃ n, s = Aliases.numbered AliasKey.tableStem n ∨ s = Aliases.numbered AliasKey.columnStem n

namespace IsAlias

variable {s : String}

theorem toList_eq (h : IsAlias s) : ∃ c cs, s.toList = c :: cs ∧ (c = 'T' ∨ c = 'A') ∧
    ∀ d ∈ cs, d.isDigit := by
  have hdigits : ∀ n : Nat, ∀ d ∈ n.repr.toList, d.isDigit := by
    intro n d hd
    rw [Nat.toList_repr] at hd
    exact Nat.isDigit_of_mem_toDigits (by omega) (by omega) hd
  obtain ⟨n, rfl | rfl⟩ := h
  · exact ⟨'T', n.repr.toList, by simp [Aliases.numbered, AliasKey.tableStem], .inl rfl, hdigits n⟩
  · exact ⟨'A', n.repr.toList, by simp [Aliases.numbered, AliasKey.columnStem], .inr rfl, hdigits n⟩

theorem isIdentifier (h : IsAlias s) : Sql.isIdentifier s := by
  obtain ⟨c, cs, hlist, hc, hcs⟩ := h.toList_eq
  have hstart : Sql.isIdentifierStart c := by
    rcases hc with rfl | rfl <;> rfl
  have hrest : ∀ d ∈ cs, Sql.isIdentifierChar d := by
    intro d hd
    simp [Sql.isIdentifierChar, Char.isAlphanum, hcs d hd]
  simp only [Sql.isIdentifier, hlist, Sql.isIdentifierChars, hstart, Bool.true_and,
    List.all_eq_true]
  exact hrest

/-- The aliases inside the subqueries of conditions are others. -/
theorem ne_subquery (h : IsAlias s) : s ≠ "VAL" ∧ s ≠ "NM" := by
  obtain ⟨c, cs, hlist, hc, -⟩ := h.toList_eq
  constructor
  · rintro rfl
    obtain ⟨rfl, -⟩ := List.cons.inj (show ['V', 'A', 'L'] = c :: cs from hlist)
    rcases hc with hc | hc <;> exact absurd hc (by decide)
  · rintro rfl
    obtain ⟨rfl, -⟩ := List.cons.inj (show ['N', 'M'] = c :: cs from hlist)
    rcases hc with hc | hc <;> exact absurd hc (by decide)

end IsAlias

/-- A namespace in which no alias was given out twice and tables have numbers below its size. -/
structure Aliases.Sound (a : Aliases AliasKey) : Prop where
  nodup : a.used.Nodup
  isAlias : ∀ s ∈ a.used, IsAlias s
  table_lt : ∀ e ∈ a.entries, ∀ id, e.1 = .table id → id < a.size

namespace Aliases

theorem sound_empty : ({} : Aliases AliasKey).Sound :=
  ⟨List.nodup_nil, by simp [used], by simp⟩

variable {a : Aliases AliasKey} {key : AliasKey} {stem : String}

theorem get?_table_size (h : a.Sound) : a.get? (.table a.size) = none := by
  cases hget : a.get? (.table a.size) with
  | none => rfl
  | some s => exact absurd (h.table_lt _ (mem_used_of_get? hget) _ rfl) (Nat.lt_irrefl _)

theorem isAlias_fresh (used : List String) (hstem : stem = AliasKey.tableStem ∨
    stem = AliasKey.columnStem) : IsAlias (fresh used stem) := by
  obtain ⟨-, n, hn⟩ := fresh_spec used stem
  rcases hstem with rfl | rfl
  · exact ⟨n, .inl hn⟩
  · exact ⟨n, .inr hn⟩

theorem sound_append (h : a.Sound) (hstem : stem = AliasKey.tableStem ∨
    stem = AliasKey.columnStem) (hkey : ∀ id, key = .table id → id ≤ a.size) :
    Sound ⟨a.entries ++ [(key, fresh a.used stem)]⟩ := by
  have hused : used ⟨a.entries ++ [(key, fresh a.used stem)]⟩ =
      a.used ++ [fresh a.used stem] := by
    simp [used]
  have hsize : size ⟨a.entries ++ [(key, fresh a.used stem)]⟩ = a.size + 1 := by
    simp [size]
  refine ⟨nodup_append_fresh h.nodup key stem, ?_, ?_⟩
  · intro s hs
    rw [hused, List.mem_append, List.mem_singleton] at hs
    rcases hs with hs | rfl
    · exact h.isAlias s hs
    · exact isAlias_fresh _ hstem
  · intro e he id hid
    rw [hsize]
    rcases List.mem_append.mp he with he | he
    · have := h.table_lt e he id hid
      omega
    · rw [List.mem_singleton] at he
      subst he
      have := hkey id hid
      omega

theorem sound_allot (h : a.Sound) (hstem : stem = AliasKey.tableStem ∨ stem = AliasKey.columnStem)
    (hkey : ∀ id, key = .table id → id ≤ a.size) : (a.allot key stem).2.Sound := by
  cases hget : a.get? key with
  | some s => simpa [allot, hget] using h
  | none =>
    rw [allot_of_none hget]
    exact sound_append h hstem hkey

theorem isAlias_allot (h : a.Sound) (hstem : stem = AliasKey.tableStem ∨
    stem = AliasKey.columnStem) : IsAlias (a.allot key stem).1 := by
  cases hget : a.get? key with
  | some s =>
    simp only [allot, hget]
    exact h.isAlias s (List.mem_map_of_mem (mem_used_of_get? hget))
  | none =>
    rw [allot_of_none hget]
    exact isAlias_fresh _ hstem

variable {b c : Aliases AliasKey}

/-- All keys have the aliases that they had. -/
def Keeps (a b : Aliases AliasKey) : Prop := ∀ k s, a.get? k = some s → b.get? k = some s

theorem Keeps.refl (a : Aliases AliasKey) : a.Keeps a := fun _ _ => id

theorem Keeps.trans (h : a.Keeps b) (h' : b.Keeps c) : a.Keeps c :=
  fun k s hs => h' k s (h k s hs)

theorem keeps_allot (a : Aliases AliasKey) (key : AliasKey) (stem : String) :
    a.Keeps (a.allot key stem).2 := by
  intro k s hs
  cases hget : a.get? key with
  | some t => simpa only [allot, hget] using hs
  | none => rw [allot_of_none hget, get?_append, hs, Option.some_or]

end Aliases

end AspectQuery

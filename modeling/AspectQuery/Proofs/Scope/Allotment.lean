import AspectQuery.Proofs.Scope.Aliases
import Mathlib.Data.Finset.Card
import Mathlib.Data.Finset.Dedup
import Mathlib.Data.List.Induction
/-!
# What a namespace gives out

A namespace is asked for the aliases of keys one after another, with whatever stems. The log of its
answers tells all that the namespace holds: a key keeps its first alias, no alias has two keys, and
a new key gets the least number of the stem that makes a new alias.
-/

set_option autoImplicit false

namespace AspectQuery.Aliases

/-- The search through the numbers of a stem, which goes on for as long as they are in use. -/
inductive Search (used : List String) (stem : String) : Nat → String → Prop
  | found {n : Nat} (h : numbered stem n ∉ used) : Search used stem n (numbered stem n)
  | next {n : Nat} {s : String} (h : numbered stem n ∈ used) (hs : Search used stem (n + 1) s) :
    Search used stem n s

theorem search_fresh (used : List String) (stem : String) :
    Search used stem 0 (fresh used stem) := by
  obtain ⟨n, ⟨hnew, hleast⟩, heq⟩ := fresh_isLeast used stem
  rw [heq]
  -- Backwards from the number that is found, all numbers before it are in use.
  refine Nat.decreasingInduction' (P := fun m => Search used stem m (numbered stem n))
    (fun m hm _ hs => .next ?_ hs) (Nat.zero_le n) (.found hnew)
  by_contra hfree
  exact absurd (hleast hfree) (Nat.not_le.mpr hm)

/-- An answer of a namespace. -/
structure Allotment (κ : Type) where
  key : κ
  stem : String
  aliasName : String

variable {κ : Type} [DecidableEq κ]

/-- The answers to keys with stems, one after another. -/
def allotAll (a : Aliases κ) : List (κ × String) → List (Allotment κ) × Aliases κ
  | [] => ([], a)
  | (key, stem) :: calls =>
    let (aliasName, a) := a.allot key stem
    let (log, a) := allotAll a calls
    (⟨key, stem, aliasName⟩ :: log, a)

/-- What a namespace holds by the log of its answers. -/
structure Logged (log : List (Allotment κ)) (a : Aliases κ) : Prop where
  /-- A key keeps its first alias, whatever the later stems, and no other key has this alias. -/
  same : ∀ x ∈ log, ∀ y ∈ log, x.aliasName = y.aliasName ↔ x.key = y.key
  least : ∀ before x after, log = before ++ x :: after → x.key ∉ before.map Allotment.key →
    ∃ n, IsLeast {n | numbered x.stem n ∉ before.map Allotment.aliasName} n ∧
      x.aliasName = numbered x.stem n
  used : ∀ s, s ∈ a.used ↔ s ∈ log.map Allotment.aliasName
  get? : ∀ k s, a.get? k = some s ↔ ∃ x ∈ log, x.key = k ∧ x.aliasName = s
  size : a.size = (log.map Allotment.key).toFinset.card

section

variable {a : Aliases κ} {log : List (Allotment κ)} {key : κ} {s : String}

theorem allotAll_append_singleton (a : Aliases κ) (calls : List (κ × String)) (key : κ)
    (stem : String) : a.allotAll (calls ++ [(key, stem)]) =
      ((a.allotAll calls).1 ++ [⟨key, stem, ((a.allotAll calls).2.allot key stem).1⟩],
        ((a.allotAll calls).2.allot key stem).2) := by
  induction calls generalizing a with
  | nil => rfl
  | cons call calls ih => simp only [List.cons_append, allotAll, ih]

theorem toFinset_append_singleton (keys : List κ) (key : κ) :
    (keys ++ [key]).toFinset = insert key keys.toFinset := by
  ext k
  simp

theorem calls_allotAll (a : Aliases κ) (calls : List (κ × String)) :
    (a.allotAll calls).1.map (fun x => (x.key, x.stem)) = calls := by
  induction calls generalizing a with
  | nil => rfl
  | cons call calls ih => simp only [allotAll, List.map_cons, ih]

namespace Logged

theorem empty : Logged [] ({} : Aliases κ) := by
  refine ⟨nofun, fun before x after h => ?_, fun s => Iff.rfl, fun k s => ?_, rfl⟩
  · cases before <;> cases h
  · exact ⟨nofun, nofun⟩

theorem key_mem_iff (h : Logged log a) :
    key ∈ log.map Allotment.key ↔ ∃ s, a.get? key = some s := by
  simp only [h.get?, List.mem_map]
  constructor
  · rintro ⟨x, hx, hkey⟩
    exact ⟨_, x, hx, hkey, rfl⟩
  · rintro ⟨_, x, hx, hkey, -⟩
    exact ⟨x, hx, hkey⟩

/-- The further answer repeats an alias of its key, or is the first one of its key. -/
theorem least_append (h : Logged log a) {x : Allotment κ}
    (hx : x.key ∉ log.map Allotment.key →
      ∃ n, IsLeast {n | numbered x.stem n ∉ log.map Allotment.aliasName} n ∧
        x.aliasName = numbered x.stem n) (before : List (Allotment κ)) (y : Allotment κ)
    (after : List (Allotment κ)) (hlog : log ++ [x] = before ++ y :: after)
    (hy : y.key ∉ before.map Allotment.key) :
    ∃ n, IsLeast {n | numbered y.stem n ∉ before.map Allotment.aliasName} n ∧
      y.aliasName = numbered y.stem n := by
  rcases List.eq_nil_or_concat after with rfl | ⟨rest, z, rfl⟩
  · obtain ⟨rfl, heq⟩ := List.append_inj' hlog rfl
    obtain rfl := List.singleton_inj.mp heq
    exact hx hy
  · have hlog' : log ++ [x] = (before ++ y :: rest) ++ [z] := by simpa using hlog
    exact h.least before y rest (List.append_inj' hlog' rfl).1 hy

theorem repeated (h : Logged log a) (hget : a.get? key = some s) (stem : String) :
    Logged (log ++ [⟨key, stem, s⟩]) a := by
  obtain ⟨x, hx, hkey, halias⟩ := (h.get? key s).mp hget
  have hmem : key ∈ log.map Allotment.key := h.key_mem_iff.mpr ⟨s, hget⟩
  -- Whatever holds of the earlier answer for the key holds of the new one.
  have hearlier : ∀ y ∈ log ++ [⟨key, stem, s⟩],
      ∃ z ∈ log, z.key = y.key ∧ z.aliasName = y.aliasName := by
    intro y hy
    rcases List.mem_append.mp hy with hy | hy
    · exact ⟨y, hy, rfl, rfl⟩
    · obtain rfl := List.mem_singleton.mp hy
      exact ⟨x, hx, hkey, halias⟩
  refine ⟨?_, h.least_append fun hnew => absurd hmem hnew, fun t => ?_, fun k t => ?_, ?_⟩
  · intro y hy z hz
    obtain ⟨y', hy', hykey, hyalias⟩ := hearlier y hy
    obtain ⟨z', hz', hzkey, hzalias⟩ := hearlier z hz
    rw [← hyalias, ← hzalias, ← hykey, ← hzkey]
    exact h.same y' hy' z' hz'
  · rw [h.used, List.map_append, List.mem_append, List.map_singleton, List.mem_singleton]
    refine ⟨.inl, ?_⟩
    rintro (ht | rfl)
    · exact ht
    · exact List.mem_map.mpr ⟨x, hx, halias⟩
  · rw [h.get?]
    constructor
    · rintro ⟨y, hy, heq⟩
      exact ⟨y, List.mem_append_left _ hy, heq⟩
    · rintro ⟨y, hy, rfl, rfl⟩
      exact hearlier y hy
  · rw [h.size, List.map_append, List.map_singleton, toFinset_append_singleton,
      Finset.insert_eq_of_mem (List.mem_toFinset.mpr hmem)]

theorem first (h : Logged log a) (hget : a.get? key = none) (stem : String) :
    Logged (log ++ [⟨key, stem, fresh a.used stem⟩])
      ⟨a.entries ++ [(key, fresh a.used stem)]⟩ := by
  have hkey : key ∉ log.map Allotment.key := by
    rw [h.key_mem_iff]
    rintro ⟨s, hs⟩
    exact absurd (hget.symm.trans hs) nofun
  have hused : ∀ stem, fresh a.used stem ∉ log.map Allotment.aliasName := fun stem =>
    (h.used _).not.mp (fresh_spec a.used stem).1
  have hne : ∀ x ∈ log, x.key ≠ key ∧ x.aliasName ≠ fresh a.used stem := fun x hx =>
    ⟨fun heq => hkey (List.mem_map.mpr ⟨x, hx, heq⟩),
      fun heq => hused stem (List.mem_map.mpr ⟨x, hx, heq⟩)⟩
  refine ⟨?_, h.least_append fun _ => ?_, fun t => ?_, fun k t => ?_, ?_⟩
  · intro x hx y hy
    rcases List.mem_append.mp hx with hx | hx <;> rcases List.mem_append.mp hy with hy | hy
    · exact h.same x hx y hy
    · obtain rfl := List.mem_singleton.mp hy
      exact iff_of_false (hne x hx).2 (hne x hx).1
    · obtain rfl := List.mem_singleton.mp hx
      exact iff_of_false (hne y hy).2.symm (hne y hy).1.symm
    · rw [List.mem_singleton.mp hx, List.mem_singleton.mp hy]
      exact iff_of_true rfl rfl
  · obtain ⟨n, hn, heq⟩ := fresh_isLeast a.used stem
    simp only [h.used] at hn
    exact ⟨n, hn, heq⟩
  · simp [Aliases.used, ← h.used]
  · rw [get?_append, Option.or_eq_some_iff, h.get?]
    constructor
    · rintro (⟨x, hx, heq⟩ | ⟨-, hnew⟩)
      · exact ⟨x, List.mem_append_left _ hx, heq⟩
      · split at hnew
        · rename_i hk
          exact ⟨_, List.mem_append_right _ List.mem_cons_self, hk, Option.some.inj hnew⟩
        · cases hnew
    · rintro ⟨x, hx, rfl, rfl⟩
      rcases List.mem_append.mp hx with hx | hx
      · exact .inl ⟨x, hx, rfl, rfl⟩
      · obtain rfl := List.mem_singleton.mp hx
        exact .inr ⟨hget, if_pos rfl⟩
  · rw [List.map_append, List.map_singleton, toFinset_append_singleton,
      Finset.card_insert_of_notMem (mt List.mem_toFinset.mp hkey), ← h.size]
    simp [Aliases.size]

theorem allot (h : Logged log a) (key : κ) (stem : String) :
    Logged (log ++ [⟨key, stem, (a.allot key stem).1⟩]) (a.allot key stem).2 := by
  cases hget : a.get? key with
  | some s =>
    simp only [Aliases.allot, hget]
    exact h.repeated hget stem
  | none =>
    rw [allot_of_none hget]
    exact h.first hget stem

end Logged

theorem logged_allotAll (calls : List (κ × String)) :
    Logged (({} : Aliases κ).allotAll calls).1 (({} : Aliases κ).allotAll calls).2 := by
  induction calls using List.reverseRecOn with
  | nil => exact .empty
  | append_singleton calls call ih =>
    rw [allotAll_append_singleton]
    exact ih.allot call.1 call.2

end

/-- After whatever calls, the namespace holds what its answers tell, and the search for the alias of
a new key ends with the answer that the key gets. -/
theorem allotment (calls : List (κ × String)) :
    ∃ log a, ({} : Aliases κ).allotAll calls = (log, a) ∧
      log.map (fun x => (x.key, x.stem)) = calls ∧ Logged log a ∧
      ∀ stem, ∃ s, Search a.used stem 0 s ∧
        ∀ key, a.get? key = none → (a.allot key stem).1 = s := by
  refine ⟨_, _, rfl, calls_allotAll {} calls, logged_allotAll calls, fun stem => ?_⟩
  exact ⟨_, search_fresh _ stem, fun key hget => congrArg Prod.fst (allot_of_none hget)⟩

/-- The stems `T` and `T1` share the alias `T10`. -/
example : (({} : Aliases Nat).allotAll [(0, "T"), (1, "T1"), (0, ""), (2, "T"), (3, "T1")]).1.map
    Allotment.aliasName = ["T0", "T10", "T0", "T1", "T11"] := by decide

end AspectQuery.Aliases

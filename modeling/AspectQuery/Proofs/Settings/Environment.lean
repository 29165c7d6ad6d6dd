import AspectQuery.Proofs.Text.Utf8
import AspectQuery.Settings.Environment
import Mathlib.Data.List.Basic
/-!
# Variables of an environment

A variable has the value of the first entry that begins with its name and an equals sign. Where no
name has an equals sign in it, an environment is a table of names with values.
-/

set_option autoImplicit false

namespace AspectQuery.Environment

variable {environment : Environment} {table : List (String × List UInt8)} {name key : String}
  {bytes : List UInt8}

theorem equals_notMem_encode (h : '=' ∉ name.toList) : 0x3d ∉ Utf8.encode name := by
  rw [Utf8.encode_eq, List.mem_flatMap]
  rintro ⟨c, hc, hmem⟩
  have hequals : c.toNat = '='.toNat := (Utf8.toNat_eq_of_mem_utf8EncodeChar hmem (by decide)).symm
  exact h (Char.toNat_inj.mp hequals ▸ hc)

theorem start_eq (name : String) : start name = Utf8.encode name ++ [0x3d] := by
  rw [start, Utf8.encode_append]
  rfl

theorem isPrefixOf?_entry (hname : '=' ∉ name.toList) (hkey : '=' ∉ key.toList)
    (bytes : List UInt8) :
    (start name).isPrefixOf? (start key ++ bytes) = if name = key then some bytes else none := by
  -- The bytes before the first equals sign tell the name.
  have hbefore : ∀ {name : String}, '=' ∉ name.toList → ∀ rest,
      (start name ++ rest).takeWhile (· != 0x3d) = Utf8.encode name := by
    intro name hname rest
    have hne : ∀ b ∈ Utf8.encode name, (b != 0x3d) = true := fun b hb =>
      bne_iff_ne.mpr (ne_of_mem_of_not_mem hb (equals_notMem_encode hname))
    rw [start_eq, List.append_assoc, List.takeWhile_append_of_pos hne]
    exact List.append_nil _
  split
  · rename_i heq
    exact List.isPrefixOf?_eq_some_iff_append_eq.mpr (heq ▸ rfl)
  · rename_i hne
    refine Option.eq_none_iff_forall_ne_some.mpr fun rest hrest => hne ?_
    have hentry := List.isPrefixOf?_eq_some_iff_append_eq.mp hrest
    rw [← Utf8.encode_inj, ← hbefore hname rest, ← hbefore hkey bytes, hentry]

theorem value?_ofTable (htable : ∀ e ∈ table, '=' ∉ e.1.toList) (hne : name ≠ "")
    (hname : '=' ∉ name.toList) : (ofTable table).value? name = table.lookup name := by
  rw [value?, if_neg (by simpa using hne), ofTable]
  induction table with
  | nil => rfl
  | cons e table ih =>
    obtain ⟨hkey, htable⟩ := List.forall_mem_cons.mp htable
    rw [List.map_cons, List.findSome?_cons, isPrefixOf?_entry hname hkey, List.lookup_cons]
    by_cases heq : name = e.1
    · rw [if_pos heq, heq, beq_self_eq_true]
    · rw [if_neg heq, beq_false_of_ne heq]
      exact ih htable

theorem value?_eq_some : environment.value? name = some bytes ↔ name ≠ "" ∧
    ∃ before after, environment.entries = before ++ (start name ++ bytes) :: after ∧
      ∀ entry ∈ before, ¬start name <+: entry := by
  rw [value?]
  split
  · rename_i hempty
    simp [String.isEmpty_iff.mp hempty]
  · rename_i hne
    have hbefore : ∀ entry, (start name).isPrefixOf? entry = none ↔ ¬start name <+: entry := by
      intro entry
      rw [← List.isPrefixOf_iff_prefix, ← List.isSome_isPrefixOf?_eq_isPrefixOf,
        Option.not_isSome_iff_eq_none]
    simp only [List.findSome?_eq_some_iff, List.isPrefixOf?_eq_some_iff_append_eq, hbefore]
    constructor
    · rintro ⟨before, _, after, hentries, rfl, hnone⟩
      exact ⟨by simpa using hne, before, after, hentries, hnone⟩
    · rintro ⟨-, before, after, hentries, hnone⟩
      exact ⟨before, _, after, hentries, rfl, hnone⟩

theorem text?_eq_some {s : String} :
    environment.text? name = some s ↔ environment.value? name = some (Utf8.encode s) := by
  have hdecode : ∀ bytes, (Utf8.decode bytes).toOption = some s ↔ Utf8.encode s = bytes := by
    intro bytes
    rw [← Utf8.decode_eq_ok]
    cases Utf8.decode bytes <;> simp [Except.toOption]
  simp [text?, Option.bind_eq_some_iff, hdecode]

/-- What an environment has for a name: the value is in the first entry of the name, and is read if
it is a text. -/
structure Reads (environment : Environment) : Prop where
  value : ∀ name bytes, environment.value? name = some bytes ↔ name ≠ "" ∧
    ∃ before after, environment.entries = before ++ (start name ++ bytes) :: after ∧
      ∀ entry ∈ before, ¬start name <+: entry
  lookup : ∀ table, environment = ofTable table → (∀ e ∈ table, '=' ∉ e.1.toList) →
    ∀ name, name ≠ "" → '=' ∉ name.toList → environment.value? name = table.lookup name
  text : ∀ name s, environment.text? name = some s ↔
    environment.value? name = some (Utf8.encode s)
  missing : ∀ name, environment.text? name = none ↔ environment.value? name = none ∨
    ∃ bytes, environment.value? name = some bytes ∧ ∀ s, Utf8.encode s ≠ bytes

theorem reads (environment : Environment) : environment.Reads where
  value _ _ := value?_eq_some
  lookup := by
    rintro table rfl htable name hne hname
    exact value?_ofTable htable hne hname
  text _ _ := text?_eq_some
  missing name := by
    rw [Option.eq_none_iff_forall_ne_some]
    simp only [ne_eq, text?_eq_some]
    cases environment.value? name with
    | none => simp
    | some bytes => simp [eq_comm]

end AspectQuery.Environment

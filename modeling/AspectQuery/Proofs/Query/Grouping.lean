import AspectQuery.Proofs.Predicate.Matching
import AspectQuery.Proofs.Query.Counts
import AspectQuery.Proofs.Text.Casing
/-!
# Which values a group selects

A group of a letter has a filter for what starts with its name when in capitals. Its members do, and
so do the members of other groups with longer or shorter names. Groups whose names have one length
have no value in common.
-/

set_option autoImplicit false

namespace AspectQuery

open Pattern (inCapitals Commutes)
open Sql (Contents Operators Scope)
open Text (isAlphabetic upperChar)

namespace Grouping

variable {name v : String} {c : Char}

/-- The capitals of the text start with the name. -/
def Selects (name v : String) : Prop := name.toList <+: (Text.upper v).toList

/-- Names of one length that select the same text are the same. -/
theorem eq_of_selects {other : String} (h : Selects name v) (h' : Selects other v)
    (hlength : name.length = other.length) : name = other := by
  have hlist : name.toList.length = other.toList.length := by
    rw [String.length_toList, String.length_toList, hlength]
  exact String.toList_inj.mp ((List.prefix_of_prefix_length_le h h' hlist.le).eq_of_length hlist)

/-- The name is the capitals of a letter. -/
def IsLetter (name : String) : Prop := ∃ c, isAlphabetic c ∧ name.toList = upperChar c

theorem IsLetter.exists_head (h : IsLetter name) :
    ∃ d ds, name.toList = d :: ds ∧ isAlphabetic d := by
  obtain ⟨c, hc, hname⟩ := h
  rw [hname]
  exact Text.exists_upperChar hc

theorem IsLetter.upperChar_of_mem (h : IsLetter name) : ∀ c ∈ name.toList, upperChar c = [c] := by
  intro c hc
  obtain ⟨d, -, hname⟩ := h
  exact Text.upperChar_of_mem (hname ▸ hc)

theorem IsLetter.ne_otherName (h : IsLetter name) : name ≠ otherName := by
  rintro rfl
  obtain ⟨d, ds, hlist, hd⟩ := h.exists_head
  obtain ⟨rfl, -⟩ := List.cons.inj (show ['#'] = d :: ds from hlist)
  exact absurd hd (by decide +kernel)

section GroupName

theorem toList_groupName {cs : List Char} (hv : v.toList = c :: cs) (hc : isAlphabetic c) :
    (groupName (.text v)).toList = upperChar c := by
  have hfirst : firstLetter? (.text v) = some c := by simp [firstLetter?, hv, Option.filter, hc]
  rw [groupName, hfirst, String.toList_ofList]

theorem exists_letter_of_groupName {w : Value} (h : groupName w ≠ otherName) :
    ∃ v c cs, w = .text v ∧ v.toList = c :: cs ∧ isAlphabetic c := by
  cases w with
  | text v =>
    cases hv : v.toList with
    | nil => simp [groupName, firstLetter?, hv] at h
    | cons c cs =>
      by_cases hc : isAlphabetic c
      · exact ⟨v, c, cs, rfl, hv, hc⟩
      · simp [groupName, firstLetter?, hv, Option.filter, hc] at h
  | _ => simp [groupName, firstLetter?] at h

theorem isLetter_groupName {w : Value} (h : groupName w ≠ otherName) : IsLetter (groupName w) := by
  obtain ⟨v, c, cs, rfl, hv, hc⟩ := exists_letter_of_groupName h
  exact ⟨c, hc, toList_groupName hv hc⟩

theorem toList_upper_cons {cs : List Char} (hv : v.toList = c :: cs) :
    (Text.upper v).toList = upperChar c ++ cs.flatMap upperChar := by
  rw [Text.upper, String.toList_ofList, hv, List.flatMap_cons]

/-- The group of a letter selects its own members. -/
theorem selects_groupName (h : groupName (.text v) ≠ otherName) :
    Selects (groupName (.text v)) v := by
  obtain ⟨_, c, cs, heq, hv, hc⟩ := exists_letter_of_groupName h
  obtain rfl := Value.text.inj heq
  rw [Selects, toList_groupName hv hc, toList_upper_cons hv]
  exact List.prefix_append _ _

/-- Only texts with a first letter are selected by letters. -/
theorem groupName_ne_otherName (hname : IsLetter name) (h : Selects name v) :
    groupName (.text v) ≠ otherName := by
  obtain ⟨d, ds, hlist, hd⟩ := hname.exists_head
  rw [Selects, hlist] at h
  cases hv : v.toList with
  | nil => simp [Text.upper, hv] at h
  | cons c cs =>
    by_cases hc : isAlphabetic c
    · exact IsLetter.ne_otherName ⟨c, hc, toList_groupName hv hc⟩
    · rw [toList_upper_cons hv, Text.upperChar_of_not_isAlphabetic (by simpa using hc)] at h
      obtain ⟨rfl, -⟩ := List.cons_prefix_cons.mp h
      exact absurd hd hc

theorem groupName_eq_iff (hname : IsLetter name) :
    groupName (.text v) = name ↔
      Selects name v ∧ (groupName (.text v)).length = name.length := by
  constructor
  · rintro rfl
    exact ⟨selects_groupName hname.ne_otherName, rfl⟩
  · rintro ⟨hselects, hlength⟩
    have hown := selects_groupName (groupName_ne_otherName hname hselects)
    exact eq_of_selects hown hselects hlength

end GroupName

section GroupFilter

theorem IsLetter.inCapitals_eq (h : IsLetter name) : inCapitals upperChar name = name := by
  apply String.toList_inj.mp
  rw [Pattern.toList_inCapitals, List.flatMap_congr h.upperChar_of_mem]
  exact List.flatMap_singleton' _

theorem IsLetter.like_iff_selects (h : IsLetter name) (v : String) :
    Pattern.like (some escape) (inCapitals upperChar (Pattern.startingWith name escape))
      (inCapitals upperChar v) ↔ Selects name v := by
  have hpercent : upperChar '%' = ['%'] := Text.upperChar_of_not_isAlphabetic (by decide +kernel)
  have hescape : upperChar escape = [escape] :=
    Text.upperChar_of_not_isAlphabetic (by decide +kernel)
  have hcommutes : ∀ c ∈ name.toList, Commutes upperChar escape c :=
    fun c hc => Pattern.commutes_of_eq hescape (h.upperChar_of_mem c hc)
  rw [Pattern.like_startingWith hpercent (by decide) hcommutes, h.inCapitals_eq]
  rfl

theorem eq_of_mem_apply {grouping : Grouping} {path : AttributePath} {groups : List ValueGroup}
    {r : ResultGroup} (h : r ∈ grouping.apply path groups) :
    (∃ g ∈ groups, groupName g.value = r.name) ∧ r.filter = groupFilter path r.name := by
  cases grouping with
  | firstCharacter =>
    obtain ⟨e, he, rfl⟩ := List.mem_map.mp h
    exact ⟨members_ne_nil.mp (mem_names_counts.mp (List.mem_map_of_mem he)), rfl⟩

end GroupFilter

section Members

variable {d : SchemaDefinition} {naming : Naming} {schema : Schema} {path : AttributePath}
  {target : Attribute}

/-- The filter of a group can be compiled. It holds for the items with a text that the name of the
group selects. These texts are the members of the group, where their own groups have names of the
same length. -/
theorem group_filter_selects (hschema : Schema.ofDefinition d naming = .ok schema)
    (hpath : schema.lookup path = .ok target) (options : Options) (ms : Mentions)
    {groups : List ValueGroup} {r : ResultGroup} {f : Filter}
    (hr : r ∈ firstCharacter.apply path groups) (hf : r.filter = some f) :
    ∃ p ms', Predicate.ofFilter schema options f ms = .ok (p, ms') ∧
      (∀ (ops : Operators) (db : Contents) (item : ItemView) (σ : Scope),
        Part.truth? (ops.withCapitals upperChar) db p.params p.parts
            ⟨σ, item.mentioned ms', item.id⟩ = some .holds ↔
          ∃ v, .text v ∈ item.values (ops.withCapitals upperChar) db schema.naming target ∧
            Selects r.name v) ∧
      ∀ v, groupName (.text v) = r.name ↔
        Selects r.name v ∧ (groupName (.text v)).length = r.name.length := by
  obtain ⟨⟨g, -, hg⟩, hfilter⟩ := eq_of_mem_apply hr
  rw [hfilter, groupFilter] at hf
  split at hf
  · simp at hf
  · rename_i hname
    obtain rfl := Option.some.inj hf
    have hletter : IsLetter r.name := hg ▸ isLetter_groupName (by rwa [hg])
    obtain ⟨p, ms', hp, hholds⟩ := Predicate.holds_likeIgnoreCase
      (Schema.proper_of_ofDefinition hschema) hpath options (Pattern.startingWith r.name escape)
      escape ms
    refine ⟨p, ms', hp, fun ops db item σ => ?_, fun v => groupName_eq_iff hletter⟩
    rw [hholds]
    simp only [hletter.like_iff_selects]

open Predicate (film films filmSchema filmTitle)

theorem group_filter_selects_films :
    let path : AttributePath := ⟨"film", "title"⟩
    let r : ResultGroup := ⟨"A", 3, groupFilter path "A"⟩
    let f := Filter.likeIgnoreCase path (Pattern.startingWith "A" escape) escape
    Schema.ofDefinition films {} = .ok filmSchema ∧ filmSchema.lookup path = .ok filmTitle ∧
      r ∈ firstCharacter.apply path [⟨.text "alien", 1⟩, ⟨.text "Aliens", 2⟩] ∧
      r.filter = some f ∧
      ∃ p ms', Predicate.ofFilter filmSchema {} f {} = .ok (p, ms') ∧
        (∀ (ops : Operators) (db : Contents) (item : ItemView) (σ : Scope),
          Part.truth? (ops.withCapitals upperChar) db p.params p.parts
              ⟨σ, item.mentioned ms', item.id⟩ = some .holds ↔
            ∃ v, .text v ∈ item.values (ops.withCapitals upperChar) db filmSchema.naming filmTitle ∧
              Selects "A" v) ∧
        ∀ v, groupName (.text v) = "A" ↔
          Selects "A" v ∧ (groupName (.text v)).length = "A".length := by
  intro path r f
  have hschema : Schema.ofDefinition films {} = .ok filmSchema := rfl
  have hpath : filmSchema.lookup path = .ok filmTitle := rfl
  have hr : r ∈ firstCharacter.apply path [⟨.text "alien", 1⟩, ⟨.text "Aliens", 2⟩] :=
    List.mem_singleton.mpr rfl
  exact ⟨hschema, hpath, hr, rfl, group_filter_selects hschema hpath {} {} hr rfl⟩

/-- The capitals of a sharp s are two letters, the first of which is the name of another group. -/
theorem group_filter_selects_sharp_s :
    ∃ r ∈ firstCharacter.apply ⟨"film", "title"⟩ [⟨.text "ß", 1⟩, ⟨.text "s", 1⟩],
      ∃ f p ms', r.filter = some f ∧ Predicate.ofFilter filmSchema {} f {} = .ok (p, ms') ∧
        Part.truth? (Operators.equality.withCapitals upperChar) (fun _ => []) p.params p.parts
          ⟨[], (film "ß").mentioned ms', (film "ß").id⟩ = some .holds ∧
        groupName (.text "ß") ≠ r.name := by
  refine ⟨⟨"S", 1, groupFilter ⟨"film", "title"⟩ "S"⟩, List.mem_cons_self, ?_⟩
  refine ⟨_, _, _, rfl, rfl, ?_, ?_⟩
  · decide +kernel
  · decide +kernel

end Members

end Grouping

end AspectQuery

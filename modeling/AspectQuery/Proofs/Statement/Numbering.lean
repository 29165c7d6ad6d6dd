import AspectQuery.Proofs.Scope.Numbering
import AspectQuery.Proofs.Statement.Outputs
import AspectQuery.Statement.Collection
/-!
# The numbers of tables and outputs

In a namespace of its own a frame has a tidy plan, and its columns are those of tables of the plan.
The outputs of a statement have new keys there, so that they are numbered in their order.
-/

set_option autoImplicit false

namespace AspectQuery

open Aliases (numbered)
open AliasKey (tableStem columnStem)

/-- The aliases of columns under some numbers. -/
def columnNames (ns : List Nat) : List String := ns.map (numbered columnStem)

/-- The aliases of tables under some numbers. -/
def tableNames (ns : List Nat) : List String := ns.map (numbered tableStem)

theorem mem_tableNames {ns : List Nat} {s : String} (h : s ∈ tableNames ns) : IsAlias s := by
  obtain ⟨n, -, rfl⟩ := List.mem_map.mp h
  exact ⟨n, .inl rfl⟩

theorem mem_columnNames {ns : List Nat} {s : String} (h : s ∈ columnNames ns) : IsAlias s := by
  obtain ⟨n, -, rfl⟩ := List.mem_map.mp h
  exact ⟨n, .inr rfl⟩

theorem pairwise_columnNames {ns : List Nat} (h : ns.Nodup) :
    (columnNames ns).Pairwise fun a b => Row.sameName a b = false := by
  refine List.pairwise_map.mpr (h.imp fun {m n} hne => ?_)
  rw [Bool.eq_false_iff]
  intro hsame
  have heq := IsAlias.eq_of_sameName ⟨m, .inr rfl⟩ ⟨n, .inr rfl⟩ hsame
  exact hne (Aliases.numbered_injective columnStem heq)

/-- Tables, outputs and the tables of subqueries have different aliases. -/
theorem nodup_names {ts cs : List Nat} (hts : ts.Nodup) (hcs : cs.Nodup) :
    (tableNames ts ++ columnNames cs ++ Sql.subqueryAliases).Nodup := by
  have halias : ∀ s ∈ tableNames ts ++ columnNames cs, IsAlias s := fun s hs =>
    (List.mem_append.mp hs).elim mem_tableNames mem_columnNames
  refine List.nodup_append.mpr ⟨List.nodup_append.mpr ⟨?_, ?_, ?_⟩, by decide, ?_⟩
  · exact hts.map (Aliases.numbered_injective tableStem)
  · exact hcs.map (Aliases.numbered_injective columnStem)
  · rintro s hs _ ht rfl
    obtain ⟨m, -, rfl⟩ := List.mem_map.mp hs
    obtain ⟨n, -, heq⟩ := List.mem_map.mp ht
    exact Aliases.table_ne_column m n heq.symm
  · rintro s hs t ht rfl
    obtain ⟨hval, hnm⟩ := (halias s hs).ne_subquery
    rcases List.mem_cons.mp ht with rfl | ht
    · exact hval rfl
    · exact hnm (List.mem_singleton.mp ht)

theorem Tables.scoped_of_qualify {t : Tables} {c : ColumnRef} {column : Sql.Column}
    (h : t.qualify c = .ok column) : column.Scoped t.names := by
  obtain ⟨i, hi, h⟩ := bind_eq_ok.mp h
  obtain rfl := pure_eq_ok.mp h
  exact List.mem_map_of_mem (Tables.mem_of_table hi).1

namespace Primary

section

variable {schema : Schema} {anchor : ColumnRef} {p q : JoinPlan}

theorem exists_addBase {necessary : List AspectId} {n : Nat}
    (h : addBase schema necessary p = .ok (n, q)) :
    ∃ purpose name, p.addBase purpose name = (n, q) := by
  unfold addBase at h
  split at h
  · obtain ⟨a, -, h⟩ := bind_eq_ok.mp h
    exact ⟨_, _, pure_eq_ok.mp h⟩
  · exact ⟨_, _, pure_eq_ok.mp h⟩

/-- The keys are those of the bounded mentions, in the order of these. -/
theorem grown_resolveSort (hp : p.tables.Sound p.aliases) (hanchor : p.Knows anchor.table)
    {sort : List (Mention × Direction)} {keys : List Sql.OrderKey}
    (h : resolveSort schema anchor sort p = .ok (keys, q)) :
    p.Grown q ∧ List.Forall₂ (fun e k => q.Finds e.1 k.column ∧ k.direction = some e.2)
      (sort.filter fun e => e.1.target.bounded) keys := by
  induction sort generalizing p keys with
  | nil =>
    obtain ⟨rfl, rfl⟩ := Prod.mk.inj (Except.ok.inj h)
    exact ⟨.refl, .nil⟩
  | cons e rest ih =>
    obtain ⟨m, direction⟩ := e
    unfold resolveSort at h
    split at h
    · rename_i hbounded
      obtain ⟨⟨c, p'⟩, hresolve, h⟩ := bind_eq_ok.mp h
      obtain ⟨column, hcolumn, h⟩ := bind_eq_ok.mp h
      obtain ⟨⟨keys', q'⟩, hrest, h⟩ := bind_eq_ok.mp h
      obtain ⟨rfl, rfl⟩ := Prod.mk.inj (pure_eq_ok.mp h)
      obtain ⟨hgrown, hc⟩ := JoinPlan.grown_resolve hanchor hresolve
      have hp' := hgrown.sound hp
      obtain ⟨hgrown', hkeys⟩ := ih hp' (hgrown.knows hanchor) hrest
      simp only [List.filter_cons, hbounded, if_true]
      refine ⟨hgrown.trans hgrown', .cons ⟨⟨c, hgrown'.grows.columns m c hc, ?_⟩, rfl⟩ hkeys⟩
      exact Tables.qualify_of_grows (hgrown'.sound hp') hgrown'.grows.tables hcolumn
    · rename_i hbounded
      simp only [List.filter_cons, hbounded]
      exact ih hp hanchor h

/-- All of a frame comes from its base. -/
theorem grown_frame {predicate : Predicate} {q : Primary} {f : Frame} {aliases : Aliases AliasKey}
    (haliases : aliases.Sound) (h : q.frame schema predicate aliases = .ok f) :
    ∃ purpose name, ∃ base p, ({ aliases } : JoinPlan).addBase purpose name = (base, p) ∧
      p.Grown f.plan ∧ f.plan.tables.qualify ⟨base, schema.naming.itemIdColumn⟩ = .ok f.anchor ∧
      List.Forall₂ (fun e k => f.plan.Finds e.1 k.column ∧ k.direction = some e.2)
        (q.sort.filter fun e => e.1.target.bounded) f.order ∧
      f.plan.statement f.anchor predicate = .ok f.statement := by
  obtain ⟨base, strict, p₀, p₁, p₂, p₃, hbase, hstrict, hloose, hresolve, hsort, hanchor,
    hstatement⟩ := frame_eq_ok_iff.mp h
  obtain ⟨purpose, name, heq⟩ := exists_addBase hbase
  obtain ⟨hsound, hknows⟩ := JoinPlan.sound_addBase haliases purpose name
  rw [heq] at hsound hknows
  have h₁ := JoinPlan.grown_joinAspects hknows hstrict
  have h₂ := h₁.trans (JoinPlan.grown_joinAspects (h₁.knows hknows) hloose)
  have h₃ := h₂.trans (JoinPlan.grown_resolveAll (h₂.knows hknows) hresolve)
  obtain ⟨h₄, horder⟩ := grown_resolveSort (h₃.sound hsound) (h₃.knows hknows) hsort
  exact ⟨purpose, name, base, p₀, heq, h₃.trans h₄, hanchor, horder, hstatement⟩

end

/-- A frame in a namespace of its own. -/
structure Frame.Tidy (f : Frame) : Prop where
  plan : f.plan.Tidy
  anchor : f.anchor.Scoped f.plan.tables.names
  order : ∀ k ∈ f.order, k.column.Scoped f.plan.tables.names

theorem tidy_frame {schema : Schema} {predicate : Predicate} {q : Primary} {f : Frame}
    (h : q.frame schema predicate {} = .ok f) : f.Tidy := by
  obtain ⟨purpose, name, base, p, heq, hgrown, hanchor, horder, -⟩ :=
    grown_frame Aliases.sound_empty h
  obtain ⟨htidy, -⟩ := JoinPlan.tidy_addBase purpose name
  rw [heq] at htidy
  refine ⟨htidy.grown hgrown, Tables.scoped_of_qualify hanchor, fun k hk => ?_⟩
  obtain ⟨n, hn, rfl⟩ := List.mem_iff_getElem.mp hk
  obtain ⟨⟨c, -, hc⟩, -⟩ := List.Forall₂.get horder (horder.length_eq ▸ hn) hn
  exact Tables.scoped_of_qualify hc

end Primary

namespace Collection

/-- A frame in a namespace of its own. -/
structure Frame.Tidy (f : Frame) : Prop where
  plan : f.plan.Tidy
  anchor : f.anchor.Scoped f.plan.tables.names
  value : f.value.Scoped f.plan.tables.names

theorem tidy_addRows {naming : Naming} {target : Attribute} {n : Nat} {c : ColumnRef}
    {p : JoinPlan} (h : addRows naming target {} = .ok (n, c, p)) : p.Tidy ∧ p.Knows n := by
  unfold addRows at h
  split at h
  · rename_i table _
    simp only [Except.ok.injEq, Prod.mk.injEq] at h
    obtain ⟨rfl, -, rfl⟩ := h
    exact JoinPlan.tidy_addBase (.collection target.path) table
  · rename_i junction values _
    simp only [Except.ok.injEq, Prod.mk.injEq] at h
    obtain ⟨rfl, -, rfl⟩ := h
    obtain ⟨htidy, hknows⟩ := JoinPlan.tidy_addBase (.collection target.path) junction
    have hgrown := JoinPlan.Grown.refl.join (.collectionValues target.path) values .inner
      naming.valueIdColumn ⟨_, naming.valueIdColumn⟩ hknows
    exact ⟨htidy.grown hgrown, hgrown.knows hknows⟩
  · simp at h
  · simp at h

theorem tidy_frame {schema : Schema} {predicate : Predicate} {target : Attribute}
    {necessary : List AspectId} {f : Frame}
    (h : frame schema predicate target necessary {} = .ok f) : f.Tidy := by
  obtain ⟨value, joined, p₀, p₁, hrows, hstrict, hresolve, hanchor, hvalue, -⟩ :=
    frame_eq_ok_iff.mp h
  obtain ⟨htidy₀, hknows₀⟩ := tidy_addRows hrows
  have h₁ := JoinPlan.grown_joinAspects hknows₀ hstrict
  have h₂ := h₁.trans (JoinPlan.grown_resolveAll (h₁.knows hknows₀) hresolve)
  exact ⟨htidy₀.grown h₂, Tables.scoped_of_qualify hanchor, Tables.scoped_of_qualify hvalue⟩

end Collection

namespace JoinPlan

/-- The plan with further outputs, whose columns are in scope and which have the next numbers. -/
structure Outputs (p : JoinPlan) (tables columns : Nat) (outputs : List Sql.Output)
    (q : JoinPlan) : Prop where
  counts : q.aliases.Counts tables (columns + outputs.length)
  tables_eq : q.tables = p.tables
  columns_eq : q.columns = p.columns
  names : outputs.map Sql.Output.aliasName =
    (columnNames (List.range' columns outputs.length)).map some
  within : ∀ o ∈ outputs, o.expression.operand.Scoped p.tables.names

section

variable {p q r : JoinPlan} {tables columns : Nat} {outputs more : List Sql.Output}

theorem Outputs.nil (h : p.aliases.Counts tables columns) : p.Outputs tables columns [] p :=
  ⟨h, rfl, rfl, rfl, by simp⟩

theorem Outputs.cons (h : p.aliases.Counts tables columns) {key : AliasKey}
    (hkey : p.aliases.get? key = none) {c : ColumnRef} {column : Sql.Column}
    (hc : p.tables.qualify c = .ok column)
    (hrest : (p.allot key columnStem).2.Outputs tables (columns + 1) outputs q) :
    p.Outputs tables columns (outputColumn column (p.allot key columnStem).1 :: outputs) q := by
  have hname : (p.allot key columnStem).1 = numbered columnStem columns :=
    (h.allot_column hkey).1
  refine ⟨?_, hrest.tables_eq, hrest.columns_eq, ?_, ?_⟩
  · rw [List.length_cons, Nat.add_comm outputs.length 1, ← Nat.add_assoc]
    exact hrest.counts
  · rw [List.map_cons, hrest.names, List.length_cons, List.range'_succ, hname]
    rfl
  · exact List.forall_mem_cons.mpr ⟨Tables.scoped_of_qualify hc, hrest.within⟩

theorem Outputs.append (h : p.Outputs tables columns outputs q)
    (h' : q.Outputs tables (columns + outputs.length) more r) :
    p.Outputs tables columns (outputs ++ more) r := by
  refine ⟨?_, h'.tables_eq.trans h.tables_eq, h'.columns_eq.trans h.columns_eq, ?_, ?_⟩
  · rw [List.length_append, ← Nat.add_assoc]
    exact h'.counts
  · rw [List.map_append, h.names, h'.names, List.length_append, ← List.map_append, columnNames,
      columnNames, ← List.map_append, List.range'_append_1]
    rfl
  · refine List.forall_mem_append.mpr ⟨h.within, ?_⟩
    rw [← h.tables_eq]
    exact h'.within

theorem outputs_outputAttributes {select : List Mention} {known attributes : List (Nat × String)}
    (hcounts : p.aliases.Counts tables columns)
    (hnew : ∀ m ∈ select, known.lookup m.index = none → p.aliases.get? (.mention m.index) = none)
    (h : outputAttributes select known p = .ok (outputs, attributes, q)) :
    p.Outputs tables columns outputs q := by
  induction select generalizing known outputs p columns with
  | nil =>
    obtain ⟨rfl, rfl, rfl⟩ : outputs = [] ∧ attributes = known ∧ q = p := by
      simpa [outputAttributes, eq_comm] using h
    exact .nil hcounts
  | cons m rest ih =>
    obtain ⟨hm, hrest⟩ := List.forall_mem_cons.mp hnew
    unfold outputAttributes at h
    split at h
    · exact ih hcounts hrest h
    · rename_i hlookup
      split at h
      · exact ih hcounts hrest h
      · obtain ⟨column, hcolumn, h⟩ := bind_eq_ok.mp h
        obtain ⟨⟨outputs', attributes', p'⟩, hrec, h⟩ := bind_eq_ok.mp h
        obtain ⟨rfl, rfl, rfl⟩ := by simpa using h
        have hkey := hm (Option.not_isSome_iff_eq_none.mp hlookup)
        have hrest' : ∀ m' ∈ rest, (known ++ [(m.index, (p.allot (.mention m.index)
            columnStem).1)]).lookup m'.index = none →
              (p.allot (.mention m.index) columnStem).2.aliases.get? (.mention m'.index) =
                none := by
          intro m' hm' hnone
          rw [List.lookup_append, Option.or_eq_none_iff] at hnone
          have hne : AliasKey.mention m.index ≠ .mention m'.index := by
            intro heq
            simp [AliasKey.mention.inj heq] at hnone
          exact (Aliases.get?_allot_of_ne hne _ _).trans (hrest m' hm' hnone.1)
        exact .cons hcounts hkey hcolumn (ih (hcounts.allot_column hkey).2 hrest' hrec)

end

end JoinPlan

namespace Primary

variable {p q : JoinPlan} {tables columns : Nat} {outputs : List Sql.Output}

theorem outputs_outputPresence {column : String} {requested : List (AspectId × Nat)}
    {presence : List (AspectId × String)} (hcounts : p.aliases.Counts tables columns)
    (hnodup : (requested.map Prod.snd).Nodup)
    (hnew : ∀ e ∈ requested, p.aliases.get? (.presence e.2) = none)
    (h : outputPresence column requested p = .ok (outputs, presence, q)) :
    p.Outputs tables columns outputs q ∧
      ∀ m, q.aliases.get? (.mention m) = p.aliases.get? (.mention m) := by
  induction requested generalizing outputs presence p columns with
  | nil =>
    obtain ⟨rfl, rfl, rfl⟩ : outputs = [] ∧ presence = [] ∧ q = p := by
      simpa [outputPresence, eq_comm] using h
    exact ⟨.nil hcounts, fun _ => rfl⟩
  | cons e rest ih =>
    obtain ⟨a, n⟩ := e
    obtain ⟨hkey, hrest⟩ := List.forall_mem_cons.mp hnew
    obtain ⟨hn, hnodup⟩ := List.nodup_cons.mp hnodup
    obtain ⟨c, hc, h⟩ := bind_eq_ok.mp h
    obtain ⟨⟨outputs', presence', p'⟩, hrec, h⟩ := bind_eq_ok.mp h
    obtain ⟨rfl, rfl, rfl⟩ := by simpa using h
    have hrest' : ∀ e ∈ rest,
        (p.allot (.presence n) columnStem).2.aliases.get? (.presence e.2) = none := by
      intro e he
      have hne : AliasKey.presence n ≠ .presence e.2 := by
        intro heq
        exact hn (List.mem_map.mpr ⟨e, he, (AliasKey.presence.inj heq).symm⟩)
      exact (Aliases.get?_allot_of_ne hne _ _).trans (hrest e he)
    obtain ⟨houtputs, hmention⟩ := ih (hcounts.allot_column hkey).2 hnodup hrest' hrec
    refine ⟨.cons hcounts hkey hc houtputs, fun m => ?_⟩
    exact (hmention m).trans (Aliases.get?_allot_of_ne (by simp) _ _)

end Primary

end AspectQuery

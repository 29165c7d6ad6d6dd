import AspectQuery.Proofs.Sql.Outside
import AspectQuery.Sql.Select
/-!
# The shape of statements

A statement whose names are identifiers has no literal of its own and as many closing as opening
parentheses around its condition. Only the clause that cuts out a page may have signed numbers.
-/

set_option autoImplicit false

namespace AspectQuery.Sql

def Column.Plain (c : Column) : Prop := isIdentifier c.qualifier ∧ isIdentifier c.name

def Expression.Plain : Expression → Prop
  | .column c => c.Plain
  | .count c => c.Plain

structure Output.Plain (o : Output) : Prop where
  expression : o.expression.Plain
  aliasName : ∀ a ∈ o.aliasName, isIdentifier a

structure Join.Plain (j : Join) : Prop where
  table : isIdentifier j.table
  aliasName : isIdentifier j.aliasName
  left : j.left.Plain
  right : j.right.Plain

/-- All names outside the source and the condition are identifiers. -/
structure Select.Plain (s : Select) : Prop where
  outputs : ∀ o ∈ s.outputs, o.Plain
  joins : ∀ j ∈ s.joins, j.Plain
  groupBy : ∀ c ∈ s.groupBy, c.Plain
  orderBy : ∀ k ∈ s.orderBy, k.column.Plain

/-- A text around another one, whose parentheses are closed again behind it. -/
def Surrounds (text inner : String) : Prop :=
  ∃ k before behind, text = before ++ inner ++ behind ∧ Shaped before 0 k 0 ∧ Shaped behind k 0 0

namespace Surrounds

variable {text inner core : String} {n : Nat}

theorem level (h : Surrounds text inner) (hinner : Level inner n) : Level text n := by
  obtain ⟨k, before, behind, rfl, hbefore, hbehind⟩ := h
  have hall := (Shaped.append hbefore hinner).append hbehind
  simpa using hall

theorem trans (h : Surrounds text inner) (h' : Surrounds inner core) : Surrounds text core := by
  obtain ⟨k, before, behind, rfl, hbefore, hbehind⟩ := h
  obtain ⟨l, before', behind', rfl, hbefore', hbehind'⟩ := h'
  refine ⟨l + k, before ++ before', behind' ++ behind, by simp only [String.append_assoc], ?_, ?_⟩
  · simpa using hbefore.append hbefore'
  · simpa [Nat.add_comm] using hbehind'.append hbehind

theorem of_level (hbefore : Level text 0) : Surrounds text "" :=
  ⟨0, text, "", by simp, hbefore, Shaped.empty⟩

end Surrounds

section Tokens

open Token (render render_append)

theorem render_cons (t : Token) (ts : List Token) : render (t :: ts) = t.text ++ render ts :=
  String.join_cons

theorem level_render {ts us : List Token} (hts : Level (render ts) 0) (hus : Level (render us) 0) :
    Level (render (ts ++ us)) 0 := by
  rw [render_append]
  exact hts.append hus

theorem level_of_forall {ts : List Token} (h : ∀ t ∈ ts, Level t.text 0) : Level (render ts) 0 := by
  induction ts with
  | nil => exact Shaped.empty
  | cons t ts ih =>
    rw [render_cons]
    exact (h t List.mem_cons_self).append (ih fun u hu => h u (List.mem_cons_of_mem t hu))

theorem level_space : Level (Token.text .space) 0 := .of_all rfl rfl rfl rfl

theorem level_keyword (k : Keyword) : Level (Token.text (.keyword k)) 0 := by
  cases k <;> exact .of_all rfl rfl rfl rfl

theorem Column.Plain.level {c : Column} (h : c.Plain) : Level c.token.text 0 := level_column h.1 h.2

theorem Expression.Plain.level {e : Expression} (h : e.Plain) : Level (render e.tokens) 0 := by
  cases e with
  | column c => exact level_of_forall (List.forall_mem_singleton.mpr (Column.Plain.level h))
  | count c =>
    have hcount : Token.text (.function "count") = "COUNT" := by decide
    have hname : Level "COUNT" 0 := .of_all rfl rfl rfl rfl
    have hopen : Shaped (Token.text .openParen) 0 1 0 := .of_all rfl rfl rfl rfl
    have hclose : Shaped (Token.text .closeParen) 1 0 0 := .of_all rfl rfl rfl rfl
    have hbehind := Shaped.append (Column.Plain.level h) (hclose.append Shaped.empty)
    simp only [Expression.tokens, render_cons, hcount, Token.render_nil]
    exact Shaped.append hname (hopen.append hbehind)

theorem Output.Plain.level {o : Output} (h : o.Plain) : Level (render o.tokens) 0 := by
  refine level_render h.expression.level ?_
  cases halias : o.aliasName with
  | none => exact Shaped.empty
  | some a =>
    have ha : Level (Token.text (.name a)) 0 := level_identifier (h.aliasName a halias)
    exact level_of_forall (List.forall_mem_cons.mpr ⟨level_space, List.forall_mem_singleton.mpr ha⟩)

theorem Join.Plain.level {j : Join} (h : j.Plain) : Level (render j.tokens) 0 := by
  have hkind : Level (render j.kind.tokens) 0 := by
    cases j.kind <;> exact .of_all rfl rfl rfl rfl
  have hequals : Level (Token.text .equals) 0 := .of_all rfl rfl rfl rfl
  have htable : Level (Token.text (.name j.table)) 0 := level_identifier h.table
  have halias : Level (Token.text (.name j.aliasName)) 0 := level_identifier h.aliasName
  refine level_render hkind (level_of_forall fun t ht => ?_)
  simp only [List.mem_cons, List.not_mem_nil, or_false] at ht
  rcases ht with rfl | rfl | rfl | rfl | rfl | rfl | rfl | rfl | rfl | rfl | rfl | rfl | rfl | rfl
  · exact level_space
  · exact level_keyword .join
  · exact level_space
  · exact htable
  · exact level_space
  · exact halias
  · exact level_space
  · exact level_keyword .on
  · exact level_space
  · exact h.left.level
  · exact level_space
  · exact hequals
  · exact level_space
  · exact h.right.level

theorem level_orderKey {k : OrderKey} (h : k.column.Plain) : Level (render k.tokens) 0 := by
  unfold OrderKey.tokens
  rw [render_cons]
  refine Level.append (n := 0) h.level ?_
  split
  · exact Shaped.empty
  · exact .of_all rfl rfl rfl rfl
  · exact .of_all rfl rfl rfl rfl

theorem level_spacedList {items : List (List Token)} (h : ∀ ts ∈ items, Level (render ts) 0) :
    Level (render (spacedList items)) 0 := by
  have hitem : ∀ ts ∈ items, Level (render (.space :: ts)) 0 := by
    intro ts hts
    rw [render_cons]
    exact level_space.append (h ts hts)
  have hcomma : Level (Token.text .comma) 0 := .of_all rfl rfl rfl rfl
  induction items with
  | nil => exact Shaped.empty
  | cons ts rest ih =>
    cases rest with
    | nil => exact hitem ts List.mem_cons_self
    | cons us rest =>
      have hrest := ih (fun vs hvs => h vs (List.mem_cons_of_mem ts hvs))
        fun vs hvs => hitem vs (List.mem_cons_of_mem ts hvs)
      refine level_render (hitem ts List.mem_cons_self) ?_
      rw [render_cons]
      exact hcomma.append hrest

theorem level_listClause (k : Keyword) {items : List (List Token)}
    (h : ∀ ts ∈ items, Level (render ts) 0) : Level (render (listClause k items)) 0 := by
  unfold listClause
  split
  · exact Shaped.empty
  · rw [render_cons, render_cons]
    exact level_space.append ((level_keyword k).append (level_spacedList h))

namespace Select

variable {s : Select}

/-- What stands before the source. -/
def headTokens (s : Select) : List Token :=
  .keyword .select :: (if s.distinct then [.space, .keyword .distinct] else []) ++
    spacedList (s.outputs.map Output.tokens)

def joinTokens (s : Select) : List Token := s.joins.flatMap fun j => .space :: j.tokens

/-- What stands behind the condition, but for the page. -/
def tailTokens (s : Select) : List Token :=
  listClause .groupBy (s.groupBy.map fun c => [c.token]) ++
    listClause .orderBy (s.orderBy.map OrderKey.tokens)

theorem Plain.level_head (h : s.Plain) : Level (Token.render s.headTokens) 0 := by
  have hdistinct :
      Level (Token.render (if s.distinct then [.space, .keyword .distinct] else [])) 0 := by
    split
    · exact .of_all rfl rfl rfl rfl
    · exact Shaped.empty
  have houtputs : Level (Token.render (spacedList (s.outputs.map Output.tokens))) 0 := by
    refine level_spacedList fun ts hts => ?_
    obtain ⟨o, ho, rfl⟩ := List.mem_map.mp hts
    exact (h.outputs o ho).level
  rw [headTokens, List.cons_append, render_cons]
  exact (level_keyword .select).append (level_render hdistinct houtputs)

theorem Plain.level_joins (h : s.Plain) : Level (Token.render s.joinTokens) 0 := by
  have hall : ∀ js : List Join, (∀ j ∈ js, j.Plain) →
      Level (Token.render (js.flatMap fun j => .space :: j.tokens)) 0 := by
    intro js
    induction js with
    | nil => exact fun _ => Shaped.empty
    | cons j js ih =>
      intro hjs
      rw [List.flatMap_cons]
      refine level_render ?_ (ih fun k hk => hjs k (List.mem_cons_of_mem j hk))
      rw [render_cons]
      exact level_space.append (hjs j List.mem_cons_self).level
  exact hall s.joins h.joins

theorem Plain.level_tail (h : s.Plain) : Level (Token.render s.tailTokens) 0 := by
  refine level_render (level_listClause .groupBy fun ts hts => ?_)
    (level_listClause .orderBy fun ts hts => ?_)
  · obtain ⟨c, hc, rfl⟩ := List.mem_map.mp hts
    exact level_of_forall (List.forall_mem_singleton.mpr (h.groupBy c hc).level)
  · obtain ⟨k, hk, rfl⟩ := List.mem_map.mp hts
    exact level_orderKey (h.orderBy k hk)

/-- The statement without its page. -/
def unpaged (s : Select) : Select := { s with limit := none, offset := none }

theorem unpaged_eq (hlimit : s.limit = none) (hoffset : s.offset = none) : s.unpaged = s := by
  cases s
  obtain rfl := hlimit
  obtain rfl := hoffset
  rfl

def conditionTokens (s : Select) : List Token :=
  match s.condition with
  | none => []
  | some text => [.space, .keyword .where, .space, .raw text]

theorem tokens_unpaged (s : Select) (d : Dialect) : s.unpaged.tokens d =
    s.headTokens ++ sourceTokens d s.source ++ s.joinTokens ++ s.conditionTokens ++
      s.tailTokens := by
  obtain ⟨distinct, outputs, source, joins, condition, groupBy, orderBy, limit, offset⟩ := s
  cases condition <;> cases d <;>
    simp [unpaged, tokens, headTokens, joinTokens, conditionTokens, tailTokens, Dialect.page,
      spaced]

theorem tokens_eq_page (s : Select) (d : Dialect) :
    s.tokens d = s.unpaged.tokens d ++ spaced (d.page s.limit s.offset) := by
  obtain ⟨distinct, outputs, source, joins, condition, groupBy, orderBy, limit, offset⟩ := s
  cases d <;> simp [unpaged, tokens, Dialect.page, spaced]

theorem render_eq_page (s : Select) (d : Dialect) :
    s.render d = s.unpaged.render d ++ Token.render (spaced (d.page s.limit s.offset)) := by
  rw [Select.render, Select.render, ← render_append, ← tokens_eq_page]

/-- A statement over a table is closed around its condition. -/
theorem surrounds_condition (h : s.Plain) {name aliasName : String}
    (hsource : s.source = some (.table name aliasName)) (hname : isIdentifier name)
    (halias : isIdentifier aliasName) (d : Dialect) :
    Surrounds (s.unpaged.render d) (s.condition.getD "") := by
  have hfrom : Level (Token.render (sourceTokens d s.source)) 0 := by
    have hname : Level (Token.text (.name name)) 0 := level_identifier hname
    have halias : Level (Token.text (.name aliasName)) 0 := level_identifier halias
    rw [hsource]
    refine level_of_forall fun t ht => ?_
    simp only [sourceTokens, List.mem_cons, List.not_mem_nil, or_false] at ht
    rcases ht with rfl | rfl | rfl | rfl | rfl | rfl
    · exact level_space
    · exact level_keyword .from
    · exact level_space
    · exact hname
    · exact level_space
    · exact halias
  have hbefore := level_render (level_render h.level_head hfrom) h.level_joins
  rw [Select.render, tokens_unpaged]
  cases hcondition : s.condition with
  | none =>
    rw [conditionTokens, hcondition, List.append_nil]
    exact .of_level (level_render hbefore h.level_tail)
  | some text =>
    have hwhere : Level " WHERE " 0 := .of_all rfl rfl rfl rfl
    have htext : Token.render s.conditionTokens = " WHERE " ++ text := by
      apply String.ext
      simp [conditionTokens, hcondition, Token.render, Token.text, Keyword.text]
    refine ⟨0, _, _, ?_, hbefore.append hwhere, h.level_tail⟩
    rw [render_append, render_append, htext, Option.getD_some, ← String.append_assoc]

/-- A statement over another one is closed around it. -/
theorem surrounds_derived (h : s.Plain) {query : Select} {aliasName : String}
    (hsource : s.source = some (.derived query aliasName)) (halias : isIdentifier aliasName)
    (hcondition : s.condition = none) (d : Dialect) :
    Surrounds (s.unpaged.render d) (query.render d) := by
  have hopen : Shaped " FROM (" 0 1 0 := .of_all rfl rfl rfl rfl
  have hclose : Shaped ") " 1 0 0 := .of_all rfl rfl rfl rfl
  have halias : Level aliasName 0 := level_identifier halias
  have hfrom : Token.render (sourceTokens d s.source) =
      " FROM (" ++ query.render d ++ (") " ++ aliasName) := by
    apply String.ext
    simp [hsource, sourceTokens, Select.render, Token.render, Token.text, Keyword.text,
      String.toList_join]
  refine ⟨1, _, _, ?_, Shaped.append h.level_head hopen,
    (hclose.append halias).append (level_render h.level_joins h.level_tail)⟩
  rw [Select.render, tokens_unpaged, conditionTokens, hcondition]
  simp only [List.append_nil, render_append, hfrom, String.append_assoc]

end Select

end Tokens

end AspectQuery.Sql

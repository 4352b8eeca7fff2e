import SearchSql.Proofs.Connection.Statement
import SearchSql.Proofs.Layout.Infix

/-!
# Nested queries

A query stands in another one among its sources, or where columns are compared with its
result. There it is laid out as it is by itself, however deep it is nested.

## Main definitions

* `Condition.SelectsFrom`, `Condition.Holds` — a condition on the result of a query, and one
  that has such a condition in a place.
* `Query.Child`, `Query.Within` — one level of nesting, and any number of levels.
* `Request.Holds` — a query stands in what a request asks for.

## Main statements

* `Query.Within.infix_layout` — a nested query stands in the layout of the outer one.
* `Request.Holds.infix_statement` — a query stands in what is written for a request.
-/
namespace SearchSql

/-- A condition on the result of a query. -/
inductive Condition.SelectsFrom (q : Query) : Value → Prop where
  /-- A column of a mapping occurs in the result. -/
  | entry {entries : Mapping} {column : Value} (h : (column, .query q) ∈ entries) :
    SelectsFrom q (.map entries)
  /-- Columns occur in the result, or do not. -/
  | member (negated : Bool)
    (spelling : Spelling (if negated then Operator.notAmong else Operator.among))
    (isTuple : Bool) {column : Value} (hnull : column.isNull = false)
    (hempty : column.isEmptyList = false) (rest : List Value) :
    SelectsFrom q (.form isTuple spelling.token (column :: .query q :: rest))

/-- A query stands in a place of a condition. -/
def Condition.Holds (q : Query) (tree : Value) : Prop :=
  ∃ (context : Context) (leaf : Value), SelectsFrom q leaf ∧ tree = context.fill leaf

/-- A query stands in a clause of another one. -/
inductive Query.Child (q outer : Query) : Prop where
  /-- It is searched. -/
  | source {key : Option String} (h : (key, .query q) ∈ outer.source.toEntries)
  /-- Rows are compared with its result. -/
  | condition (h : Condition.Holds q outer.condition)
  /-- Groups are compared with its result. -/
  | having (h : Condition.Holds q outer.having)

/-- A query stands in another one at some depth, or is that one. -/
abbrev Query.Within : Query → Query → Prop := Relation.ReflTransGen Query.Child

/-- A query stands in what a request asks for. -/
inductive Request.Holds (q : Query) : Request → Prop where
  /-- It stands in a query. -/
  | build {query params : Value} {outer : Query} (hread : Query.ofValue query = .ok outer)
    (h : q.Within outer) : Holds q (.build query params)
  /-- It stands in a condition. -/
  | condition {tree names params : Value} {outer : Query} (htree : Condition.Holds outer tree)
    (h : q.Within outer) : Holds q (.condition tree names params)
  /-- It stands in the condition on the rows that are changed. -/
  | update {target cells tree params options : Value} {outer : Query}
    (htree : Condition.Holds outer tree) (h : q.Within outer) :
    Holds q (.update target cells tree params options)
  /-- It stands in the condition on the rows that are deleted. -/
  | delete {target tree params : Value} {outer : Query} (htree : Condition.Holds outer tree)
    (h : q.Within outer) : Holds q (.delete target tree params)

/-- The layout of a query, without the statement that shows its statistics. -/
def Query.layout (c : Connection) (q : Query) : Layout := (Selection.ofQuery q).layout c

variable {c : Connection} {q outer : Query}

namespace Condition

theorem Frame.exists_fill_eq_form (frame : Frame) (v : Value) :
    ∃ isTuple token operands, frame.fill v = .form isTuple token operands := by
  cases frame with
  | connected _ spelling isTuple before behind => exact ⟨isTuple, _, _, rfl⟩
  | denied spelling isTuple => exact ⟨isTuple, _, _, rfl⟩

/-- Around a place there is operator form. -/
theorem Context.exists_fill_eq_form (context : Context) {v : Value}
    (h : ∃ isTuple token operands, v = .form isTuple token operands) :
    ∃ isTuple token operands, context.fill v = .form isTuple token operands := by
  induction context generalizing v with
  | nil => exact h
  | cons frame outer ih => exact ih (frame.exists_fill_eq_form v)

/-- A condition that a query stands in has operator form, or is a mapping with the query among its
values. -/
theorem Holds.form_or_map {tree : Value} (h : Holds q tree) :
    (∃ isTuple token operands, tree = .form isTuple token operands) ∨
      ∃ entries column, tree = .map entries ∧ (column, .query q) ∈ entries := by
  obtain ⟨context, leaf, hleaf, rfl⟩ := h
  cases hleaf with
  | @entry entries column hmem =>
    cases context with
    | nil => exact .inr ⟨entries, column, rfl, hmem⟩
    | cons frame outer =>
      exact .inl (Context.exists_fill_eq_form outer (frame.exists_fill_eq_form _))
  | member => exact .inl (context.exists_fill_eq_form ⟨_, _, _, rfl⟩)

/-- No query stands in a condition that is not given. -/
theorem not_holds_null : ¬ Holds q .null := by
  intro h
  obtain ⟨isTuple, token, operands, heq⟩ | ⟨entries, column, heq, -⟩ := h.form_or_map
  · cases isTuple <;> cases heq
  · cases heq

theorem SelectsFrom.infix_layoutOf {leaf : Value} (h : SelectsFrom q leaf)
    (indexes : List Index) : q.layout c <:+: layoutOf c indexes leaf := by
  cases h with
  | entry h =>
    refine List.IsInfix.trans ?_ (infix_layoutOf_map c indexes h)
    rw [ofEntry, layout]
    exact (Layout.infix_enclose ..).trans (List.prefix_append ..).isInfix
  | @member negated spelling isTuple column hnull hempty rest =>
    have hselected : ofMembers negated column (.query q) =
        .amongSelected negated column.columns (Selection.ofQuery q) := by
      simp [ofMembers, hempty]
    rw [layoutOf, ofValue_membership negated spelling isTuple hnull, hselected, layout]
    exact (Layout.infix_enclose ..).trans (List.prefix_append ..).isInfix

theorem Holds.infix_layoutOf {tree : Value} (h : Holds q tree) (indexes : List Index) :
    q.layout c <:+: layoutOf c indexes tree := by
  obtain ⟨context, leaf, hleaf, rfl⟩ := h
  exact context.infix_layoutOf c indexes (hleaf.infix_layoutOf indexes)

end Condition

namespace Query

theorem Child.exists_infix_clause (h : q.Child outer) :
    ∃ clause ∈ (Selection.ofQuery outer).clauses c, q.layout c <:+: clause := by
  cases h with
  | source h =>
    obtain ⟨position, hmem⟩ := Source.exists_ofEntry_mem h
    rw [← Selection.ofQuery_sources] at hmem
    obtain ⟨clause, hclause, hin⟩ := Selection.exists_clause_of_source c _ hmem
    rw [Source.ofEntry, Source.layout] at hin
    exact ⟨clause, hclause, (Layout.infix_enclose ..).trans hin⟩
  | condition h =>
    obtain ⟨clause, hclause, hin⟩ := Selection.exists_clause_of_condition c (.ofQuery outer)
    rw [Selection.ofQuery_condition] at hin
    exact ⟨clause, hclause, (h.infix_layoutOf _).trans hin⟩
  | having h =>
    obtain ⟨clause, hclause, hin⟩ := Selection.exists_clause_of_having c (.ofQuery outer)
    rw [Selection.ofQuery_having] at hin
    exact ⟨clause, hclause, (h.infix_layoutOf _).trans hin⟩

/-- A query stands in the one around it. -/
theorem Child.infix_layout (h : q.Child outer) (hs : (outer.layout c).Sound) :
    q.layout c <:+: outer.layout c := by
  obtain ⟨clause, hclause, hin⟩ := h.exists_infix_clause
  exact hin.trans (Selection.infix_layout hs hclause)

/-- **A nested query stands in the layout of the outer one**, at any depth. -/
theorem Within.infix_layout (h : q.Within outer) (hs : (outer.layout c).Sound) :
    q.layout c <:+: outer.layout c := by
  induction h with
  | refl => exact List.infix_refl _
  | @tail middle outer _ hchild ih =>
    have hinner := hchild.infix_layout hs
    exact (ih (hs.of_isInfix hinner)).trans hinner

end Query

/-! ## Requests -/

/-- The condition on the rows that are changed. -/
theorem Condition.infix_ofUpdate {tree : Value} (target cells options : Value)
    (hs : (Layout.ofUpdate c target cells tree options).Sound) :
    layoutOf c (c.knownIndex target) tree <:+: Layout.ofUpdate c target cells tree options := by
  have hclause : layoutOf c (c.knownIndex target) tree <:+:
      Layout.ofRowCondition c target tree := Layout.infix_after ..
  cases cells with
  | map pairs => exact hclause.trans (Layout.infix_joinPresent " " (by simp))
  | _ => simp [Layout.ofUpdate, Piece.isFault] at hs

/-- The condition on the rows that are deleted. -/
theorem Condition.infix_ofDelete {tree : Value} (target : Value) :
    layoutOf c (c.knownIndex target) tree <:+: Layout.ofDelete c target tree := by
  have hclause : layoutOf c (c.knownIndex target) tree <:+:
      Layout.ofRowCondition c target tree := Layout.infix_after ..
  exact hclause.trans (Layout.infix_joinPresent " " (by simp))

/-- A query that stands in a condition stands in the layout around that condition. -/
theorem Condition.Holds.infix_of_within {tree : Value} {l : Layout} {indexes : List Index}
    (htree : Holds outer tree) (h : q.Within outer) (hs : l.Sound)
    (hl : layoutOf c indexes tree <:+: l) : q.layout c <:+: l := by
  have houter := (htree.infix_layoutOf indexes).trans hl
  exact (h.infix_layout (hs.of_isInfix houter)).trans houter

/-- A request with a nested query is written by its layout. -/
theorem Connection.exists_statement?_of_holds {r : Request} (hq : r.Holds q) :
    ∃ params l, c.statement? r = some (params, l) := by
  cases hq with
  | build hread => exact ⟨_, _, by simp only [Connection.statement?, hread]; rfl⟩
  | condition | update | delete => exact ⟨_, _, rfl⟩

/-- **A query stands in what is written for a request.** -/
theorem Request.Holds.infix_statement {r : Request} (h : r.Holds q) {params : Value} {l : Layout}
    (hl : c.statement? r = some (params, l)) (hs : l.Sound) : q.layout c <:+: l := by
  cases h with
  | @build query _ outer hread h =>
    simp only [Connection.statement?, hread, Except.toOption, Option.map_some,
      Option.some.injEq, Prod.mk.injEq] at hl
    obtain ⟨rfl, rfl⟩ := hl
    have houter : outer.layout c <:+: c.queryLayout outer := (List.prefix_append ..).isInfix
    exact (h.infix_layout (hs.of_isInfix houter)).trans houter
  | @condition tree names _ outer htree h =>
    obtain rfl := (Prod.mk.inj (Option.some.inj hl)).2
    cases hnames : names.elements? with
    | none => simp [Connection.conditionLayout, hnames, Piece.isFault] at hs
    | some items =>
      simp only [Connection.conditionLayout, hnames] at hs ⊢
      exact htree.infix_of_within h hs (List.infix_refl _)
  | @update target cells tree _ options outer htree h =>
    obtain rfl := (Prod.mk.inj (Option.some.inj hl)).2
    exact htree.infix_of_within h hs (Condition.infix_ofUpdate target cells options hs)
  | @delete target tree _ outer htree h =>
    obtain rfl := (Prod.mk.inj (Option.some.inj hl)).2
    exact htree.infix_of_within h hs (Condition.infix_ofDelete target)

end SearchSql

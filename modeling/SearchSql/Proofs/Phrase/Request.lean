import SearchSql.Proofs.Phrase.Bodies

/-!
# Keywords without a body

Each keyword of a statement that has been written has its place there, with its body behind it, at
whatever depth the query stands that it belongs to. The body is seen, unless it is one of the three
for which nothing is left.

## Main definitions

* `Connection.Introduces` — the phrases that are written for a request.
* `Connection.Spot` — a place of a phrase in what is written.

## Main statements

* `Connection.bodies_seen_iff` — the phrases with a body that is seen.
-/
namespace SearchSql

open Layout

theorem Phrase.charsAt_head (stem : String) (p : Phrase) (start : Params) :
    p.head.charsAt stem start = p.opening.toList := by
  cases hsearched : p.searched <;> simp [head, hsearched, Params.written]

namespace Connection

variable {c : Connection} {r : Request} {p : Phrase}

/-- A keyword is written for a request, with a body behind it. A statement that changes an index is
made of the parts of its line (`statement?_of_line?`), and a query of its lines
(`Selection.layout_eq_lines`), so there are no others. -/
inductive Introduces (c : Connection) (r : Request) (p : Phrase) : Prop where
  /-- In the statement itself. -/
  | own {parts : List Part} (hline : r.line? c = some parts) (h : .phrase p ∈ parts)
  /-- In a query that stands in what is asked for. -/
  | selection {q : Query} {line : List Part} (hq : r.Holds q)
    (hline : line ∈ (Selection.ofQuery q).lines c) (h : .phrase p ∈ line)

/-- A phrase stands in its line. -/
theorem infix_line {parts : List Part} (h : .phrase p ∈ parts) : p.layout <:+: line parts :=
  infix_joinPresent " " (List.mem_map_of_mem (f := Part.layout) h)

/-- A phrase of a query stands in the query. -/
theorem infix_layout_of_mem_lines {q : Query} {line : List Part}
    (hline : line ∈ (Selection.ofQuery q).lines c) (h : .phrase p ∈ line)
    (hs : (q.layout c).Sound) : p.layout <:+: q.layout c := by
  rw [Query.layout, Selection.layout_eq_lines] at hs ⊢
  cases hjoined : (Selection.ofQuery q).isJoined with
  | true => simp [hjoined, Piece.isFault] at hs
  | false =>
    have hmem := List.mem_map_of_mem (f := Layout.line) hline
    exact (infix_line h).trans (List.infix_cons (infix_joinPresent c.settings.separator hmem))

/-- **What is written for a request has its phrases in it.** -/
theorem Introduces.infix_statement (h : c.Introduces r p) {params : Value} {l : Layout}
    (hl : c.statement? r = some (params, l)) (hs : l.Sound) : p.layout <:+: l := by
  cases h with
  | own hline h =>
    obtain ⟨given, hgiven⟩ := statement?_of_line? hline
    obtain rfl := (Prod.mk.inj (Option.some.inj (hl.symm.trans hgiven))).2
    exact infix_line h
  | selection hq hline h =>
    have hquery := hq.infix_statement hl hs
    exact (infix_layout_of_mem_lines hline h (hs.of_isInfix hquery)).trans hquery

/-- A request that a phrase is written for has a layout. -/
theorem Introduces.exists_statement? (h : c.Introduces r p) :
    ∃ params l, c.statement? r = some (params, l) := by
  cases h with
  | own hline _ =>
    obtain ⟨params, hparams⟩ := statement?_of_line? hline
    exact ⟨params, _, hparams⟩
  | selection hq _ _ => exact exists_statement?_of_holds hq

/-- The phrases without a body are written as well. -/
theorem Bare.introduces (h : c.Bare r p) : c.Introduces r p := by
  cases h with
  | @groups _ q hq hgroups =>
    obtain ⟨s, hs, hne, hnone⟩ := hgroups
    have hcolumns : (Selection.ofQuery q).groupBy = some [] := by
      simp [Selection.ofQuery_groupBy, hs, hne, ListedColumn.ofText_eq_nil_iff.2 hnone]
    have hline : Part.grouping c (Selection.ofQuery q).groupBy ∈ (Selection.ofQuery q).lines c := by
      simp [Selection.lines]
    refine .selection hq hline ?_
    rw [hcolumns]
    exact List.mem_singleton_self _
  | changes target tree params options => exact .own rfl (List.mem_cons_self ..)
  | rows how target params hnames hrows =>
    refine .own (by simp only [Request.line?, hnames, hrows]; rfl) (List.mem_singleton_self _)

/-- A place of a phrase in what is written for a request. -/
structure Spot (c : Connection) (r : Request) (p : Phrase) where
  /-- The parameters of the caller. -/
  params : Value
  /-- What is written behind them. -/
  written : Layout
  /-- That is what is written for the request. -/
  statement_eq : c.statement? r = some (params, written)
  /-- What stands in front of the phrase. -/
  before : Layout
  /-- What stands behind it. -/
  behind : Layout
  /-- The phrase stands between them. -/
  eq_append : ofCaller params ++ written = before ++ (p.layout ++ behind)

namespace Spot

variable (spot : c.Spot r p)

/-- What is written in front of the keyword. -/
def front : List Char := spot.before.charsAt c.settings.paramStem .empty

/-- The body as it is written in its place. -/
def body : List Char :=
  p.body.charsAt c.settings.paramStem
    ((spot.before ++ p.head).paramsAfter c.settings.paramStem .empty)

/-- What is written behind the body. -/
def back : List Char :=
  spot.behind.charsAt c.settings.paramStem
    ((spot.before ++ p.layout).paramsAfter c.settings.paramStem .empty)

/-- The keyword stands in the statement, and the body behind it. -/
theorem sql_eq {k : Compiled} (hk : c.compiled? r = some k) :
    k.sql.toList = spot.front ++ (p.opening.toList ++ (spot.body ++ spot.back)) := by
  obtain ⟨-, hsql, -, -⟩ := (c.compiled?_eq_some_iff spot.statement_eq).1 hk
  rw [hsql, spot.eq_append, ← List.append_assoc, charsAt_append, charsAt_append, Phrase.layout,
    charsAt_append, charsAt_append, charsAt_naming, Phrase.charsAt_head, front, body, back,
    Phrase.layout, paramsAfter_append]
  simp

/-- A phrase that is written has a place. -/
theorem nonempty (h : c.Introduces r p) {k : Compiled} (hk : c.compiled? r = some k) :
    Nonempty (c.Spot r p) := by
  obtain ⟨params, l, hl⟩ := h.exists_statement?
  obtain ⟨hsound, -, -, -⟩ := (c.compiled?_eq_some_iff hl).1 hk
  have hin : p.layout <:+: ofCaller params ++ l :=
    (h.infix_statement hl (sound_append.1 hsound).2).trans (List.suffix_append ..).isInfix
  obtain ⟨before, behind, heq⟩ := hin
  exact ⟨params, l, hl, before, behind, by rw [← heq, List.append_assoc]⟩

/-- Of a phrase without a body nothing is seen. -/
theorem not_isSeen_body (h : c.Bare r p) : ¬ Text.IsSeen spot.body := by
  rw [body, h.body_eq_nil]
  exact Text.not_isSeen_nil

end Spot

/-- **The keywords with a body.** If the names and the fragments are seen that are supplied, each
keyword of a statement has a place in it, and the body that is written behind it there is seen,
just when it is none of these: a grouping by a text of commas and blanks, a change of no columns,
and the rows of an empty batch. These are written, with nothing behind the keyword. -/
theorem bodies_seen_iff (hd : c.dialect.KeepsSeen) (hr : r.Shown) {k : Compiled}
    (hk : c.compiled? r = some k) :
    (∀ p, c.Introduces r p → Nonempty (c.Spot r p) ∧
      ∀ spot : c.Spot r p,
        k.sql.toList = spot.front ++ (p.opening.toList ++ (spot.body ++ spot.back)) ∧
          (Text.IsSeen spot.body ↔ ¬ c.Bare r p)) ∧
      ∀ p, c.Bare r p → c.Introduces r p := by
  refine ⟨fun p hp => ⟨Spot.nonempty hp hk, fun spot => ⟨spot.sql_eq hk, ?_⟩⟩,
    fun p hp => hp.introduces⟩
  refine ⟨fun hseen hbare => spot.not_isSeen_body hbare hseen, fun hbody => ?_⟩
  obtain ⟨hsound, -, -, -⟩ := (c.compiled?_eq_some_iff spot.statement_eq).1 hk
  have hs : p.body.Sound := by
    rw [spot.eq_append] at hsound
    obtain ⟨-, hbody⟩ := sound_append.1 (sound_append.1 (sound_append.1 hsound).2).1
    exact (sound_append.1 hbody).1
  have hseen : p.body.IsSeen c.settings.paramStem ∨ c.Bare r p := by
    cases hp with
    | own hline h => exact isSeen_body_of_line? hd hr hline h hs
    | @selection q line hq hline h =>
      refine (Query.isSeen_body hd (hr.queries q hq) hline h hs).imp_right ?_
      rintro ⟨hgroups, rfl⟩
      exact .groups hq hgroups
  exact hseen.resolve_right hbody _

/-- The rows of some sources in groups. -/
def groupsOf (source : Entries Value) (groupBy : Grouping Value) : Query :=
  { Clauses.empty with source, groupBy }

/-- The rows of one index, grouped by the columns in a text. -/
def groupsOfIndex (columns : String) : Query :=
  groupsOf (.positional [.text "rt"]) (.text columns)

theorem shown_groupsOf {source : Entries Value} {groupBy : Grouping Value}
    (hsource : ∀ s ∈ Source.listOf source, s.Shown)
    (hgroups : ∀ items, groupBy = .columns items → ∀ v ∈ items, (ListedColumn.ofValue v).Shown) :
    (groupsOf source groupBy).Shown where
  fields := by simp [groupsOf, Clauses.empty, Entries.toEntries]
  sources := hsource
  condition := by simp [groupsOf, Clauses.empty, Condition.ofValue, Condition.Shown]
  groupBy := hgroups
  within := by simp [groupsOf, Clauses.empty]
  having := by simp [groupsOf, Clauses.empty, Condition.ofValue, Condition.Shown]
  orderBy := by simp [groupsOf, Clauses.empty]
  facets := by simp [groupsOf, Clauses.empty, Entries.toEntries]

theorem shown_groupsOfIndex (columns : String) : (groupsOfIndex columns).Shown := by
  refine shown_groupsOf ?_ nofun
  have hsources : Source.listOf (.positional [.text "rt"]) = [.index "rt" none] := rfl
  rw [hsources]
  exact List.forall_mem_singleton.2 (show Text.IsSeen "rt".toList by decide)

/-- Only among the sources may another query stand in a grouping. -/
theorem eq_or_within_of_within_groupsOf {q : Query} {source : Entries Value}
    {groupBy : Grouping Value} (h : q.Within (groupsOf source groupBy)) :
    q = groupsOf source groupBy ∨
      ∃ key inner, (key, .query inner) ∈ source.toEntries ∧ q.Within inner := by
  obtain heq | ⟨inner, hwithin, hchild⟩ := Relation.ReflTransGen.cases_tail h
  · exact .inl heq.symm
  · cases hchild with
    | source hmem => exact .inr ⟨_, inner, hmem, hwithin⟩
    | condition hholds => exact absurd hholds Condition.not_holds_null
    | having hholds => exact absurd hholds Condition.not_holds_null

theorem eq_of_within_groupsOfIndex {q : Query} {columns : String}
    (h : q.Within (groupsOfIndex columns)) : q = groupsOfIndex columns := by
  obtain heq | ⟨key, inner, hmem, -⟩ := eq_or_within_of_within_groupsOf h
  · exact heq
  · simp [Entries.toEntries] at hmem

/-- A request for a query supplies what the query and those nested in it do. -/
theorem shown_build {outer : Query} (h : ∀ q : Query, q.Within outer → q.Shown) (params : Value) :
    (Request.build (.query outer) params).Shown where
  queries := by
    intro q hq
    cases hq with
    | build hread hwithin =>
      obtain rfl := Except.ok.inj hread
      exact h q hwithin
  update := nofun
  delete := nofun

theorem bodies_seen_iff_nestedGroups :
    let c : Connection := ⟨none, .manticore, {}⟩
    let inner := groupsOfIndex " , "
    let r : Request :=
      .build (.query (groupsOf (.positional [.query inner]) (.columns [.text "author"]))) .null
    c.dialect.KeepsSeen ∧ r.Shown ∧ r.Holds inner ∧ inner.GroupsByNothing ∧
      ∃ k, c.compiled? r = some k ∧
        (∀ p, c.Introduces r p → Nonempty (c.Spot r p) ∧
          ∀ spot : c.Spot r p,
            k.sql.toList = spot.front ++ (p.opening.toList ++ (spot.body ++ spot.back)) ∧
              (Text.IsSeen spot.body ↔ ¬ c.Bare r p)) ∧
          ∀ p, c.Bare r p → c.Introduces r p := by
  intro c inner r
  have hd : c.dialect.KeepsSeen := Dialect.keepsPlain_manticore.keepsSeen
  have hr : r.Shown := by
    refine shown_build (fun q hq => ?_) .null
    obtain rfl | ⟨key, given, hmem, hwithin⟩ := eq_or_within_of_within_groupsOf hq
    · have hsource : ∀ s ∈ Source.listOf (.positional [.query inner]), s.Shown := by
        simp [Source.listOf, Source.ofItems, Source.ofEntry, Source.Shown]
      refine shown_groupsOf hsource ?_
      rintro items ⟨⟩
      exact List.forall_mem_singleton.2 (show Text.IsSeen "author".toList by decide)
    · obtain ⟨-, rfl⟩ : key = none ∧ given = inner := by simpa [Entries.toEntries] using hmem
      rw [eq_of_within_groupsOfIndex hwithin]
      exact shown_groupsOfIndex " , "
  have hholds : r.Holds inner := .build rfl (.single (.source (List.mem_singleton_self _)))
  have hnothing : inner.GroupsByNothing :=
    ⟨" , ", rfl, by decide, by simp [Text.isBlank, Text.isWhiteSpace]⟩
  obtain ⟨k, hk⟩ := Option.isSome_iff_exists.1
    (show (c.compiled? r).isSome = true by decide)
  exact ⟨hd, hr, hholds, hnothing, k, hk, bodies_seen_iff hd hr hk⟩

/-- A grouping by a comma is written without a body. -/
theorem not_bodies_seen :
    ¬ ∀ (r : Request) (k : Compiled), r.Shown → standard.compiled? r = some k →
      ∀ p, standard.Introduces r p → ∀ spot : standard.Spot r p, Text.IsSeen spot.body := by
  intro h
  have hr : (Request.build (.query (groupsOfIndex ",")) .null).Shown := by
    refine shown_build (fun q hq => ?_) .null
    rw [eq_of_within_groupsOfIndex hq]
    exact shown_groupsOfIndex ","
  have hbare : standard.Bare (.build (.query (groupsOfIndex ",")) .null) .groupsNothing :=
    .groups (.build rfl .refl) ⟨",", rfl, by decide, by simp⟩
  obtain ⟨k, hk⟩ := Option.isSome_iff_exists.1
    (show (standard.compiled? (.build (.query (groupsOfIndex ",")) .null)).isSome = true by
      decide)
  obtain ⟨spot⟩ := Spot.nonempty hbare.introduces hk
  exact spot.not_isSeen_body hbare (h _ k hr hk _ hbare.introduces spot)

end Connection

end SearchSql

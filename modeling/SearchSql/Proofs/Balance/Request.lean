import SearchSql.Proofs.Balance.Nesting
import SearchSql.Proofs.Balance.Statement
import SearchSql.Proofs.Subquery.Request

/-!
# Statements with balanced parentheses

A statement has balanced parentheses if the texts have that the request and the settings
supply, as they are given: names with their labels, columns in a list, raw fragments, operators
and options. So has each query that is nested in it, by itself.

## Main definitions

* `Connection.uncut` — what a request is given.
* `Connection.Site.text` — a nested query as it is written in its place.

## Main statements

* `Connection.leads_statement` — what is written for a request.
* `Connection.balanced_of_uncut` — the statement and the queries nested in it.
-/
namespace SearchSql

open Leaf (AllBalanced)

/-- The texts that settings put into every statement are balanced. -/
structure Settings.Balanced (settings : Settings) : Prop where
  /-- Between the clauses of a statement. -/
  separator : Parens.Balanced settings.separator.toList
  /-- Between two statements. -/
  querySeparator : Parens.Balanced settings.querySeparator.toList
  /-- In front of the numbers of parameters. -/
  paramStem : Parens.Balanced settings.paramStem.toList

/-- The columns that are changed and their new values. -/
def Leaf.ofChanges (c : Connection) (target : Value) : Value → List Leaf
  | .map cells => cells.flatMap fun (column, v) =>
    .quoted column.display :: Leaf.ofValue (c.knownIndex target) column v
  | _ => []

namespace Connection

variable (c : Connection)

/-- What a request is given that may stand in its statement. -/
def uncut : Request → List Leaf
  | .build query _ =>
    match Query.ofValue query with
    | .ok q => Selection.uncut c q ++ Leaf.ofShowMeta c q.showMeta
    | .error _ => []
  | .condition tree names _ =>
    Condition.uncut c (c.known ((names.elements?.getD []).filterMap Value.text?)) tree
  | .store _ target cells _ => Leaf.ofStore c target cells
  | .batch _ target names rows _ => Leaf.ofBatch c target names rows
  | .update target cells tree _ options =>
    .quoted target.display :: (Leaf.ofChanges c target cells ++
      (Condition.uncut c (c.knownIndex target) tree ++ Leaf.ofOptionMapping options))
  | .delete target tree _ =>
    .quoted target.display :: Condition.uncut c (c.knownIndex target) tree
  | .truncate target => [.quoted target.display]
  | .snippets target source query options _ => Leaf.ofSnippets target source query options
  | _ => []

variable {c}

/-- What the statement for a query is given. -/
theorem leads_queryLayout (hd : c.dialect.KeepsBalance) (hs : c.settings.Balanced) {q : Query}
    (hq : AllBalanced (Selection.uncut c q))
    (hmeta : AllBalanced (Leaf.ofShowMeta c q.showMeta)) : (c.queryLayout q).Leads 0 0 :=
  (Layout.Leads.selection hd (Parens.balanced_iff_leads.1 hs.separator) _
    (Leaf.allBalanced_selection q hq)).append
    (.after (Parens.balanced_iff_leads.1 hs.querySeparator) (.ofShowMeta hmeta))

/-- **What is written for a request is balanced if what it is given is.** -/
theorem leads_statement (hd : c.dialect.KeepsBalance) (hs : c.settings.Balanced) {r : Request}
    (hr : AllBalanced (c.uncut r)) {params : Value} {l : Layout}
    (hl : c.statement? r = some (params, l)) : l.Leads 0 0 := by
  have hseparator := Parens.balanced_iff_leads.1 hs.separator
  cases r with
  | build query _ =>
    cases hread : Query.ofValue query with
    | error f => simp [statement?, hread, Except.toOption] at hl
    | ok q =>
      simp only [uncut, hread, Leaf.allBalanced_append] at hr
      simp only [statement?, hread, Except.toOption, Option.map_some, Option.some.injEq,
        Prod.mk.injEq] at hl
      rw [← hl.2]
      exact leads_queryLayout hd hs hr.1 hr.2
  | condition tree names _ =>
    obtain rfl := (Prod.mk.inj (Option.some.inj hl)).2
    rw [conditionLayout]
    cases hnames : names.elements? with
    | none => exact .fault _
    | some items =>
      simp only [uncut, hnames, Option.getD_some] at hr
      exact .condition hd hseparator _ _ (Leaf.allBalanced_condition _ tree hr)
  | store how target cells _ =>
    obtain rfl := (Prod.mk.inj (Option.some.inj hl)).2
    exact .ofStore hd how hr
  | batch how target names rows _ =>
    obtain rfl := (Prod.mk.inj (Option.some.inj hl)).2
    exact .ofBatch hd how hr
  | update target cells tree _ options =>
    obtain rfl := (Prod.mk.inj (Option.some.inj hl)).2
    simp only [uncut, Leaf.allBalanced_cons, Leaf.allBalanced_append] at hr
    obtain ⟨htarget, hpairs, htree, hoptions⟩ := hr
    refine .ofUpdate hd hseparator ?_
    cases cells with
    | map pairs =>
      simp only [Leaf.ofUpdate, Leaf.allBalanced_cons, Leaf.allBalanced_append]
      exact ⟨htarget, hpairs, Leaf.allBalanced_condition _ tree htree, hoptions⟩
    | _ => exact Leaf.allBalanced_nil
  | delete target tree _ =>
    obtain rfl := (Prod.mk.inj (Option.some.inj hl)).2
    obtain ⟨htarget, htree⟩ := Leaf.allBalanced_cons.1 hr
    exact .ofDelete hd hseparator
      (Leaf.allBalanced_cons.2 ⟨htarget, Leaf.allBalanced_condition _ tree htree⟩)
  | truncate target =>
    obtain rfl := (Prod.mk.inj (Option.some.inj hl)).2
    exact .ofTruncate hd (Leaf.allBalanced_cons.1 hr).1
  | snippets target source query options _ =>
    obtain rfl := (Prod.mk.inj (Option.some.inj hl)).2
    exact .ofSnippets hr
  | _ => cases hl

/-- The statement that a request is answered with. -/
theorem balanced_compiled (hd : c.dialect.KeepsBalance) (hs : c.settings.Balanced) {r : Request}
    (hr : AllBalanced (c.uncut r)) {k : Compiled} (hk : c.compiled? r = some k) :
    Parens.Balanced k.sql.toList := by
  have hstem := Parens.balanced_iff_leads.1 hs.paramStem
  rw [Parens.balanced_iff_leads]
  cases hl : c.statement? r with
  | none =>
    obtain ⟨target, text, statistics, params, rfl⟩ := c.exists_keywords_of_compiled? hl hk
    obtain ⟨-, rfl⟩ := c.compiled?_keywords_eq_some_iff.1 hk
    exact Layout.leads_keywordsText (Layout.leads_nextName hstem _)
      (Layout.leads_nextName hstem _) _
  | some found =>
    obtain ⟨params, l⟩ := found
    obtain ⟨-, hsql, -, -⟩ := (c.compiled?_eq_some_iff hl).1 hk
    rw [hsql]
    exact ((Layout.Leads.ofCaller params).append (leads_statement hd hs hr hl)).charsAt hstem _

/-! ## Nested queries -/

namespace Site

variable {r : Request} {q : Query} (site : c.Site r q)

/-- What is written before the query. -/
def front : List Char := site.before.charsAt c.settings.paramStem .empty

/-- The query as it is written in its place. -/
def text : List Char :=
  (q.layout c).charsAt c.settings.paramStem
    (site.before.paramsAfter c.settings.paramStem .empty)

/-- What is written behind the query. -/
def back : List Char :=
  site.behind.charsAt c.settings.paramStem
    ((q.layout c).paramsAfter c.settings.paramStem
      (site.before.paramsAfter c.settings.paramStem .empty))

theorem sql_eq {k : Compiled} (hk : c.compiled? r = some k) :
    k.sql.toList = site.front ++ (site.text ++ site.back) := by
  obtain ⟨-, hsql, -, -⟩ := (c.compiled?_eq_some_iff site.statement_eq).1 hk
  rw [hsql, site.eq_append, Layout.charsAt_append, Layout.charsAt_append]
  rfl

end Site

/-- What a nested query is given is also given to the request. -/
theorem allBalanced_uncut_of_holds {r : Request} {q : Query} (hq : r.Holds q)
    (hr : AllBalanced (c.uncut r)) : AllBalanced (Selection.uncut c q) := by
  cases hq with
  | build hread hwithin =>
    simp only [uncut, hread, Leaf.allBalanced_append] at hr
    exact hwithin.allBalanced_uncut hr.1
  | condition htree hwithin => exact hwithin.allBalanced_uncut (htree.allBalanced_uncut hr)
  | update htree hwithin =>
    simp only [uncut, Leaf.allBalanced_cons, Leaf.allBalanced_append] at hr
    exact hwithin.allBalanced_uncut (htree.allBalanced_uncut hr.2.2.1)
  | delete htree hwithin =>
    exact hwithin.allBalanced_uncut
      (htree.allBalanced_uncut (Leaf.allBalanced_cons.1 hr).2)

/-- A nested query is balanced by itself, wherever it is written. -/
theorem Site.balanced_text (hd : c.dialect.KeepsBalance) (hs : c.settings.Balanced) {r : Request}
    (hr : AllBalanced (c.uncut r)) {q : Query} (hq : r.Holds q) (site : c.Site r q) :
    Parens.Balanced site.text := by
  have hlayout : (q.layout c).Leads 0 0 :=
    .selection hd (Parens.balanced_iff_leads.1 hs.separator) _
      (Leaf.allBalanced_selection q (allBalanced_uncut_of_holds hq hr))
  exact Parens.balanced_iff_leads.2
    (hlayout.charsAt (Parens.balanced_iff_leads.1 hs.paramStem) _)

/-- **Statements are balanced** if the texts are that the request and the settings supply. A
query that is nested in what is asked for has a place in the statement, and in each of its places
it is balanced by itself. -/
theorem balanced_of_uncut (hd : c.dialect.KeepsBalance) (hs : c.settings.Balanced) {r : Request}
    (hr : AllBalanced (c.uncut r)) {k : Compiled} (hk : c.compiled? r = some k) :
    Parens.Balanced k.sql.toList ∧
      ∀ q, r.Holds q → Nonempty (c.Site r q) ∧
        ∀ site : c.Site r q, k.sql.toList = site.front ++ (site.text ++ site.back) ∧
          Parens.Balanced site.text := by
  refine ⟨balanced_compiled hd hs hr hk, fun q hq => ⟨?_, fun site => ⟨site.sql_eq hk, ?_⟩⟩⟩
  · obtain ⟨params, l, hl⟩ := exists_statement?_of_holds (c := c) hq
    exact Site.nonempty hq hk hl
  · exact site.balanced_text hd hs hr hq

/-- The authors of the books of two years. -/
def recentAuthors (year : Int) : Query :=
  { Clauses.empty with
    select := .positional [.text "author", .text "count(*) AS n"]
    source := .positional [.text "books b"]
    condition := .map [(.text "year", .list [.int year, .int (year + 1)])]
    groupBy := .text "author, shelf" }

/-- All books of these authors, and those that match well. -/
def booksOfRecentAuthors (year : Int) : Request :=
  .build (.query { Clauses.empty with
    source := .positional [.text "books"]
    condition := .list [.text "OR",
      .list [.text "IN", .text "author", .query (recentAuthors year)],
      .raw "weight() > :least" [(.text ":least", .int 3)]]
    options := [("field_weights", .map [(.text "title", .int 10)])] }) .null

theorem balanced_of_uncut_booksOfRecentAuthors :
    let c : Connection := ⟨none, .manticore, {}⟩
    let r := booksOfRecentAuthors 1999
    c.dialect.KeepsBalance ∧ c.settings.Balanced ∧ AllBalanced (c.uncut r) ∧
      r.Holds (recentAuthors 1999) ∧
      ∃ k, c.compiled? r = some k ∧ Parens.Balanced k.sql.toList ∧
        ∀ q, r.Holds q → Nonempty (c.Site r q) ∧
          ∀ site : c.Site r q, k.sql.toList = site.front ++ (site.text ++ site.back) ∧
            Parens.Balanced site.text := by
  have hs : Settings.Balanced {} := ⟨by decide, by decide, by decide⟩
  have hr : AllBalanced
      ((⟨none, .manticore, {}⟩ : Connection).uncut (booksOfRecentAuthors 1999)) := by
    decide +kernel
  have hholds : (booksOfRecentAuthors 1999).Holds (recentAuthors 1999) := by
    refine .build rfl (.single (.condition ⟨[.connected .or ⟨"OR", by decide⟩ false []
      [.raw "weight() > :least" [(.text ":least", .int 3)]]], _, ?_, rfl⟩))
    exact .member false ⟨"IN", by decide⟩ false rfl rfl []
  obtain ⟨k, hk⟩ := Option.isSome_iff_exists.1
    (show ((⟨none, .manticore, {}⟩ : Connection).compiled? (booksOfRecentAuthors 1999)).isSome =
      true by decide +kernel)
  exact ⟨Dialect.keepsBalance_manticore, hs, hr, hholds, k, hk,
    balanced_of_uncut Dialect.keepsBalance_manticore hs hr hk⟩

end Connection

end SearchSql

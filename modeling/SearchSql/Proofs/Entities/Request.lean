import SearchSql.Proofs.Entities.Selection
import SearchSql.Proofs.Formula.Composition

/-!
# The indexes that a statement searches

Beside the statement for a query stand the names of all the indexes that it searches. These are
the names in the clauses for the sources, of the query first and then of the nested queries, each
of them as it is quoted there. The conditions of each query are written for the indexes with its
own names.

## Main definitions

* `Entry.WrittenAs` — the text of an entry that names an index.
* `Query.IsSearchedIn` — how a query that is met stands in a statement.

## Main statements

* `Connection.entities_of_reached` — the names beside a statement.
-/
namespace SearchSql

open Layout

variable (c : Connection)

/-- An entry that names an index is written as the name and its label, both quoted. -/
def Entry.WrittenAs (entry : Entry) (fragment : List Char) : Prop :=
  ∀ name label, entry.index? = some (name, label) →
    fragment = (c.quote name ++ label.elim "" (" " ++ c.quote ·)).toList

/-- A query that is met stands in a statement. -/
structure Query.IsSearchedIn (whole : Layout) (sql : List Char) (q : Query) : Prop where
  /-- Read by themselves, its entries name the same indexes. -/
  names : SearchSql.indexNames q.source.toEntries = q.indexNames
  /-- The clause for the sources quotes these names, each in the place of its entry. -/
  source : q.source.toEntries ≠ [] →
    ∃ fragments, List.Forall₂ (Entry.WrittenAs c) q.source.toEntries fragments ∧
      "FROM ".toList ++ ", ".toList.intercalate fragments <:+: sql
  /-- The query stands there as it is laid out by itself. -/
  layout : q.layout c <:+: whole
  /-- The condition on rows is laid out for the indexes with these names. -/
  condition : Condition.layoutOf c (c.known q.indexNames) q.condition <:+: q.layout c
  /-- The condition on groups is laid out for them as well. -/
  having : Condition.layoutOf c (c.known q.indexNames) q.having <:+: q.layout c

variable {c}

/-! ## The clause for the sources -/

namespace Source

/-- An index is written as its entry names it. -/
theorem ReadFrom.writtenAs {entry : Entry} {source : Source} (h : ReadFrom entry source)
    (p : Params) : Entry.WrittenAs c entry ((source.layout c).charsAt c.settings.paramStem p) := by
  intro name label hindex
  obtain ⟨position, rfl⟩ := h
  obtain ⟨key, v⟩ := entry
  cases v with
  | text s =>
    rw [ofEntry, ofText_eq_index hindex, layout]
    cases label <;> simp [ofLabeled, Params.written, String.append_assoc]
  | _ => simp [Entry.index?] at hindex

/-- **Each source is written in the place of its entry.** -/
theorem forall₂_writtenAs {entries : List Entry} {sources : List Source}
    (h : List.Forall₂ ReadFrom entries sources) (p : Params) :
    List.Forall₂ (Entry.WrittenAs c) entries
      (textsAt c.settings.paramStem (layouts c sources) p) := by
  induction h generalizing p with
  | nil => exact .nil
  | cons hread _ ih =>
    rw [layouts]
    exact .cons (hread.writtenAs p) (ih _)

end Source

/-- A query that stands in a statement is searched there. -/
theorem Query.isSearchedIn {q : Query} {whole : Layout} (h : q.layout c <:+: whole)
    (hs : whole.Sound) (p : Params) :
    q.IsSearchedIn c whole (whole.charsAt c.settings.paramStem p) where
  names := q.indexNames_toEntries
  source hentries := by
    have hread := Source.forall₂_readFrom q.source
    have hne : Source.listOf q.source ≠ [] := fun hnone =>
      hentries (List.forall₂_nil_right_iff.1 (hnone ▸ hread))
    have hclause := (infix_sources (hs.of_isInfix h) hne).trans h
    obtain ⟨start, hin⟩ := exists_charsAt_infix c.settings.paramStem hclause p
    refine ⟨_, Source.forall₂_writtenAs hread start, ?_⟩
    rwa [charsAt_cons, charsAt_cons, charsAt_join] at hin
  layout := h
  condition := infix_condition (hs.of_isInfix h)
  having := infix_having (hs.of_isInfix h)

namespace Connection

theorem answer_build_eq_ok_iff {query params : Value} {k : Compiled} {names : List String} :
    c.answer (.build query params) = .ok (.selection k names) ↔
      ∃ q, Query.ofValue query = .ok q ∧ c.build q params = .ok k ∧
        c.entities q params = names := by
  cases hread : Query.ofValue query with
  | error f => simp [answer, hread, bind, Except.bind]
  | ok q =>
    cases hbuild : c.build q params with
    | error f => simp [answer, hread, hbuild, bind, Except.bind]
    | ok compiled => simp [answer, hread, hbuild, bind, Except.bind, pure, Except.pure]

/-- **The names beside a statement are those of the indexes that it searches**: the names that
the entries of the query give to indexes, then those of the nested queries in the order in which
they are met. Each of these queries stands in the statement; its clause for the sources quotes
the names, and its conditions are laid out for the known indexes with just these names. -/
theorem entities_of_reached {query params : Value} {k : Compiled} {names : List String}
    (h : c.answer (.build query params) = .ok (.selection k names)) :
    ∃ q, Query.ofValue query = .ok q ∧ names = q.reached.flatMap Query.indexNames ∧
      ∀ inner ∈ q.reached,
        inner.IsSearchedIn c (ofCaller params ++ c.queryLayout q) k.sql.toList := by
  obtain ⟨q, hread, hbuild, rfl⟩ := answer_build_eq_ok_iff.1 h
  obtain ⟨hsound, hsql, -, -⟩ := c.compile_eq_ok_iff.1 hbuild
  have hin : q.layout c <:+: ofCaller params ++ c.queryLayout q :=
    (List.prefix_append ..).isInfix.trans (List.suffix_append ..).isInfix
  have hreaches := reaches_selection q (hsound.of_isInfix hin)
  refine ⟨q, hread, ?_, fun inner hinner => ?_⟩
  · have hquery : (q.layout c).searched = q.reached.flatMap Query.indexNames :=
      hreaches.searched_eq
    rw [entities, indexes_eq_searched hsound, searched_append, searched_ofCaller, queryLayout,
      searched_append, searched_after, searched_ofShowMeta, List.append_nil, List.nil_append]
    exact hquery
  · rw [hsql]
    exact Query.isSearchedIn ((hreaches.infix_layout inner hinner).trans hin) hsound _

/-- Loans, with a nested query among the sources and in each condition. One of these has a nested
query of its own. -/
def loans : Query :=
  { Clauses.empty with
    source := .positional [.text "loans AS l", .text "loans", .query { Clauses.empty with
      source := .keyed [(.text "a", .text "archive 1990")] }]
    condition := .list [.text "IN", .text "reader", .query { Clauses.empty with
      source := .positional [.text "readers", .raw "f(x)" []]
      condition := .map [(.text "town", .query { Clauses.empty with
        source := .positional [.text "towns t", .text "g(t)"] })] }]
    having := .list [.text "NOT", .map [(.text "shelf", .query { Clauses.empty with
      source := .positional [.text "shelves"] })]] }

theorem entities_of_reached_loans :
    ∃ k, standard.answer (.build (.query loans) .null) = .ok (.selection k
        ["loans", "loans", "archive 1990", "readers", "towns", "shelves"]) ∧
      ∃ q, Query.ofValue (.query loans) = .ok q ∧
        ["loans", "loans", "archive 1990", "readers", "towns", "shelves"] =
          q.reached.flatMap Query.indexNames ∧
        ∀ inner ∈ q.reached,
          inner.IsSearchedIn standard (ofCaller .null ++ standard.queryLayout q)
            k.sql.toList := by
  obtain ⟨k, hbuild⟩ : ∃ k, standard.build loans .null = .ok k := by
    have hwritten : (standard.build loans .null).toOption.isSome = true := by decide +kernel
    cases hbuild : standard.build loans .null with
    | ok k => exact ⟨k, rfl⟩
    | error f => simp [hbuild, Except.toOption] at hwritten
  have hnames : standard.entities loans .null =
      ["loans", "loans", "archive 1990", "readers", "towns", "shelves"] := by decide +kernel
  have hanswer : standard.answer (.build (.query loans) .null) = .ok (.selection k _) :=
    answer_build_eq_ok_iff.2 ⟨loans, rfl, hbuild, hnames⟩
  exact ⟨k, hanswer, entities_of_reached hanswer⟩

end Connection

end SearchSql

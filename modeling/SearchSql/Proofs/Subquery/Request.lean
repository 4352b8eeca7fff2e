import SearchSql.Proofs.Placeholder.Raising
import SearchSql.Proofs.Placeholder.Request
import SearchSql.Proofs.Subquery.Nesting

/-!
# Nested queries compile to themselves

A query that is nested in another one, or in a condition, is written as it is by itself, but
for the numbers of its placeholders: these are raised by how many parameters are bound when it
is reached. Each placeholder is bound to the same value. So the values in a query are coerced to
the columns of the indexes that it searches, and not to those of the query around it.

## Main definitions

* `Query.withoutMeta` — a query without the statement that shows its statistics.
* `Connection.Site` — a place of a query in what is written for a request.

## Main statements

* `Connection.subquery_compiles_raised` — a nested query and the query by itself.
-/
namespace SearchSql

open Placeholder

/-- A query without the statement that shows its statistics. -/
def Query.withoutMeta (q : Query) : Query := { q with showMeta := .null }

namespace Connection

open Layout

variable (c : Connection)

/-- A place of a query in what is written for a request. -/
structure Site (r : Request) (q : Query) where
  /-- The parameters of the caller. -/
  params : Value
  /-- What is written behind them. -/
  written : Layout
  /-- That is what is written for the request. -/
  statement_eq : c.statement? r = some (params, written)
  /-- What stands in front of the query. -/
  before : Layout
  /-- What stands behind it. -/
  behind : Layout
  /-- The query stands between them. -/
  eq_append : ofCaller params ++ written = before ++ (q.layout c ++ behind)

namespace Site

variable {c} {r : Request} {q : Query} (site : c.Site r q)

/-- The parameters that are bound when the query is reached. -/
def reached : Params := site.before.paramsAfter ":qp" .empty

/-- The parameters that are bound when the query has been written. -/
def passed : Params := (q.layout c).paramsAfter ":qp" site.reached

/-- What the query supplies has no name that is bound when it is reached. -/
def HasNewNames : Prop :=
  ∀ given ∈ ((Selection.ofQuery q).leaves c).filterMap Leaf.params?,
    ∀ key ∈ given.keys, ∀ name ∈ site.reached.names, name.sameKey key = false

/-- A nested query has a place. -/
theorem nonempty {k : Compiled} (h : r.Holds q) (hk : c.compiled? r = some k)
    {given : Value} {l : Layout} (hl : c.statement? r = some (given, l)) :
    Nonempty (c.Site r q) := by
  obtain ⟨hsound, -, -, -⟩ := (c.compiled?_eq_some_iff hl).1 hk
  have hin : q.layout c <:+: ofCaller given ++ l :=
    (h.infix_statement hl (sound_append.1 hsound).2).trans (List.suffix_append ..).isInfix
  obtain ⟨before, behind, heq⟩ := hin
  exact ⟨given, l, hl, before, behind, by rw [← heq, List.append_assoc]⟩

end Site

/-- A query by itself is its layout, written from no parameters. -/
theorem build_withoutMeta {q : Query} (h : (q.layout c).Sound) :
    c.build q.withoutMeta .null = .ok
      ⟨String.ofList ((q.layout c).charsAt c.settings.paramStem .empty),
        ((q.layout c).paramsAfter c.settings.paramStem .empty).entries, c.dialect.name⟩ := by
  have hselection : Selection.ofQuery q.withoutMeta = Selection.ofQuery q := by
    cases q
    simp only [Query.withoutMeta, Selection.ofQuery]
  have hlayout : c.queryLayout q.withoutMeta = q.layout c := by
    rw [queryLayout, hselection]
    exact List.append_nil _
  rw [build, hlayout, compile_eq_ok_iff]
  exact ⟨h, String.toList_ofList, rfl, rfl⟩

/-- **A nested query compiles to itself, raised.** No text that the request supplies, and no name
of its parameters, has the mark of a placeholder in it. Wherever the query stands, and its own
parameters have names that are not bound there, it also compiles by itself; the statement
has its text with the number of each placeholder raised by how many parameters are bound when it
is reached, and the raised placeholder is bound to the same value. -/
theorem subquery_compiles_raised (hd : c.dialect.KeepsFree) (hs : c.settings = {}) {r : Request}
    {leaves : List Leaf} (hleaves : c.leaves? r = some leaves)
    (hfree : ∀ leaf ∈ leaves, leaf.Free) {k : Compiled} (hk : c.compiled? r = some k) {q : Query}
    (hq : r.Holds q) :
    Nonempty (c.Site r q) ∧
      ∀ site : c.Site r q, site.HasNewNames →
        ∃ alone, c.build q.withoutMeta .null = .ok alone ∧
          k.sql.toList = site.before.charsAt ":qp" .empty ++
            (raise site.reached.size alone.sql.toList ++ site.behind.charsAt ":qp" site.passed) ∧
          ∀ n, digits n ∈ read alone.sql.toList →
            ∃ v, alone.params.named? (Params.numbered ":qp" n) = some v ∧
              k.params.named? (Params.numbered ":qp" (n + site.reached.size)) = some v := by
  obtain ⟨given, l, hstatement, hframed⟩ := c.framedBy_statement hd hs hleaves
  refine ⟨Site.nonempty hq hk hstatement, ?_⟩
  intro site hnew
  have hstem : c.settings.paramStem = ":qp" := by rw [hs]
  have hseparator : insulates c.settings.separator.toList = true := by rw [hs]; decide
  obtain ⟨hsound, hsql, hparams, -⟩ := (c.compiled?_eq_some_iff site.statement_eq).1 hk
  obtain ⟨rfl, rfl⟩ : given = site.params ∧ l = site.written := by
    simpa using hstatement.symm.trans site.statement_eq
  have hclear := hframed.clear hfree
  have hunnumbered := hframed.unnumbered hfree
  rw [hstem] at hsql hparams
  rw [site.eq_append] at hsound hsql hparams hclear hunnumbered
  -- what stands in front, the query and what stands behind, each by itself
  have hin : q.layout c <:+: site.before ++ (q.layout c ++ site.behind) :=
    ⟨site.before, site.behind, List.append_assoc ..⟩
  have hcells := hclear.of_isInfix (cells_isInfix hin)
  have hquery := hunnumbered.of_isInfix hin
  have hbehind := hunnumbered.of_isInfix (l := site.behind)
    ⟨site.before ++ q.layout c, [], by simp⟩
  have hreached : site.reached.WellNumbered ":qp" :=
    wellNumbered_paramsAfter (hunnumbered.of_isInfix (List.prefix_append ..).isInfix)
      (Params.wellNumbered_empty ":qp")
  have hnewTo : (q.layout c).NewTo site.reached := by
    intro params hmem
    rw [Query.layout, (FramedBy.selection hd hseparator _).merges_eq] at hmem
    exact hnew params hmem
  have halone := c.build_withoutMeta (hsound.of_isInfix hin)
  rw [hstem] at halone
  refine ⟨_, halone, ?_, ?_⟩
  · rw [String.toList_ofList, ← charsAt_raise hcells hquery hnewTo hreached, hsql,
      charsAt_append, charsAt_append]
    rfl
  · intro n hn
    rw [String.toList_ofList] at hn
    rw [hparams, paramsAfter_append, paramsAfter_append]
    exact exists_named?_raised hcells hquery hnewTo hreached hbehind hn

/-- The books of a year, with a parameter of the query's own. -/
def booksOfYear (year : Int) : Query :=
  { Clauses.empty with
    select := .positional [.text "author"]
    source := .positional [.text "books"]
    condition := .list [.text "AND", .map [(.text "year", .int year)], .text "shelf=:shelf"]
    params := [(":shelf", .int 7)] }

/-- A condition on authors, beside one with a value. -/
def authorsOf (year : Int) : Request :=
  .condition (.list [.text "AND", .map [(.text "id", .int 3)],
    .list [.text "IN", .text "author", .query (booksOfYear year)]]) (.list []) .null

/-- The place of the query in the condition. -/
def authorsSite (year : Int) : standard.Site (authorsOf year) (booksOfYear year) where
  params := .null
  written := standard.conditionLayout (.list [.text "AND", .map [(.text "id", .int 3)],
    .list [.text "IN", .text "author", .query (booksOfYear year)]]) (.list [])
  statement_eq := rfl
  before := [.text "(", .text "id=", .bind (.int 3), .text ") AND (", .text "(author) IN ("]
  behind := [.text ")", .text ")"]
  eq_append := rfl

theorem subquery_compiles_raised_authorsOf :
    ∃ leaves k, standard.leaves? (authorsOf 1999) = some leaves ∧
      (∀ leaf ∈ leaves, leaf.Free) ∧ standard.compiled? (authorsOf 1999) = some k ∧
      (authorsOf 1999).Holds (booksOfYear 1999) ∧ (authorsSite 1999).HasNewNames ∧
      (authorsSite 1999).reached.size = 1 ∧
      ∃ alone, standard.build (booksOfYear 1999).withoutMeta .null = .ok alone ∧
        k.sql.toList = (authorsSite 1999).before.charsAt ":qp" .empty ++
          (raise 1 alone.sql.toList ++
            (authorsSite 1999).behind.charsAt ":qp" (authorsSite 1999).passed) ∧
        ∀ n, digits n ∈ read alone.sql.toList →
          ∃ v, alone.params.named? (Params.numbered ":qp" n) = some v ∧
            k.params.named? (Params.numbered ":qp" (n + 1)) = some v := by
  have hleaves : standard.leaves? (authorsOf 1999) = some
      [.quoted "id", .bound (.int 3), .quoted "author", .given [(.text ":shelf", .int 7)],
        .quoted "author", .quoted "books", .quoted "year", .bound (.int 1999),
        .verbatim "shelf=:shelf"] := rfl
  have hfree : ∀ leaf ∈ [Leaf.quoted "id", .bound (.int 3), .quoted "author",
      .given [(.text ":shelf", .int 7)], .quoted "author", .quoted "books", .quoted "year",
      .bound (.int 1999), .verbatim "shelf=:shelf"], leaf.Free := by
    intro leaf hleaf
    simp only [List.mem_cons, List.not_mem_nil, or_false] at hleaf
    rcases hleaf with rfl | rfl | rfl | rfl | rfl | rfl | rfl | rfl | rfl
    all_goals simp [Leaf.Free, Placeholder.Free, mark, Mapping.keys]
    all_goals decide
  have hholds : (authorsOf 1999).Holds (booksOfYear 1999) :=
    .condition ⟨[.connected .and ⟨"AND", by decide⟩ false [.map [(.text "id", .int 3)]] []], _,
      .member false ⟨"IN", by decide⟩ false rfl rfl [], rfl⟩ .refl
  have hnew : (authorsSite 1999).HasNewNames := by
    intro given hgiven key hkey name hname
    obtain rfl : given = [(.text ":shelf", .int 7)] := List.mem_singleton.1 hgiven
    obtain rfl : key = .text ":shelf" := List.mem_singleton.1 hkey
    obtain rfl : name = .text ":qp0" := List.mem_singleton.1 hname
    decide
  obtain ⟨k, hk⟩ := Option.isSome_iff_exists.1
    (show (standard.compiled? (authorsOf 1999)).isSome = true by decide +kernel)
  exact ⟨_, k, hleaves, hfree, hk, hholds, hnew, rfl,
    (subquery_compiles_raised standard Dialect.keepsFree_sphinx rfl hleaves hfree hk hholds).2
      (authorsSite 1999) hnew⟩

end Connection

end SearchSql

import SearchSql.Proofs.Connection.Statement
import SearchSql.Proofs.Dialect.Selection

/-!
# The two dialects differ in back-quotes only

A request that supplies no back-quote is answered in the dialect with quotes as in the one
without them, but for the back-quotes in the text: both fail with the same fault, or both
succeed with the same parameters.

## Main definitions

* `Connection.supplied` — what a request supplies to the text of its answer.
* `Answer.unquoted` — an answer without the back-quotes in it.

## Main statements

* `Connection.answer_unquoted` — the answers of any dialect that adds only back-quotes.
* `Connection.answer_manticore` — the answers in the two dialects.
-/
namespace SearchSql

namespace Layout

open Leaf (AllBare)

variable {c : Connection}

@[simp] theorem unquoted_ofCaller (v : Value) : (ofCaller v).unquoted = ofCaller v := by
  rw [ofCaller]
  repeat' split
  all_goals rfl

/-! ## Changes of an index -/

theorem unquoted_ofCell {indexes : List Index} {column v : Value}
    (h : AllBare (Leaf.ofValue indexes column v)) :
    (ofCell indexes column v).unquoted = ofCell indexes column v := by
  rw [ofCell, unquoted_append, unquoted_naming, unquoted_ofValue h]

theorem unquoted_ofCells {indexes : List Index} {cells : List (Value × Value)}
    (h : AllBare (Leaf.ofCells indexes cells)) :
    (ofCells indexes cells).unquoted = ofCells indexes cells := by
  rw [Leaf.ofCells, Leaf.allBare_flatMap] at h
  have hmap := map_unquoted fun cell hcell => unquoted_ofCell (h cell hcell)
  rw [ofCells, unquoted_enclose, unquoted_join, hmap]
  simp (disch := decide) only [unquote_of_bare]

theorem unquoted_ofOptionMapping {v : Value} (h : AllBare (Leaf.ofOptionMapping v)) :
    (ofOptionMapping v).unquoted = ofOptionMapping v := by
  unfold Leaf.ofOptionMapping at h
  unfold ofOptionMapping
  split
  · rfl
  · rename_i hgiven
    rw [if_neg hgiven] at h
    cases v with
    | map pairs => rw [unquoted_append, unquoted_naming, unquoted_ofOptions h]
    | _ => rfl

theorem unquoted_ofDocuments (source : Value) :
    (ofDocuments source).unquoted = ofDocuments source := by
  rw [ofDocuments]
  split
  · have hmap := map_unquoted (s := ‹List Value›) (f := fun v => [.bind v])
      (g := fun v => [.bind v]) fun _ _ => rfl
    rw [unquoted_enclose, unquoted_join, hmap]
    simp (disch := decide) only [unquote_of_bare]
  · rfl

theorem unquoted_ofCallOptions {v : Value} (h : AllBare (Leaf.ofCallOptions v)) :
    (ofCallOptions v).unquoted = ofCallOptions v := by
  unfold Leaf.ofCallOptions at h
  unfold ofCallOptions
  split
  · rfl
  · rename_i hgiven
    rw [if_neg hgiven] at h
    cases v with
    | map pairs =>
      rw [Leaf.allBare_flatMap] at h
      have hmap := map_unquoted (s := pairs)
          (f := fun pair => ofPlain pair.2 ++ naming [pair.1] ++ [.text (" AS " ++ pair.1.display)])
          (g := fun pair =>
            ofPlain pair.2 ++ naming [pair.1] ++ [.text (" AS " ++ pair.1.display)]) <| by
        intro pair hpair
        obtain ⟨hv, hname⟩ := Leaf.allBare_append.1 (h pair hpair)
        have hname : Bare pair.1.display := by simpa using hname
        simp (disch := first | assumption | decide) [Piece.unquoted, unquoted_ofPlain hv,
          unquote_of_bare]
      simp (disch := decide) only [unquoted_cons, unquoted_join, Piece.unquoted, unquote_of_bare,
        hmap]
    | _ => rfl

theorem unquoted_ofSnippets {target source query options : Value}
    (h : AllBare (Leaf.ofSnippets target source query options)) :
    (ofSnippets target source query options).unquoted =
      ofSnippets target source query options := by
  simp only [Leaf.ofSnippets, Leaf.allBare_append, Leaf.allBare_cons] at h
  simp (disch := decide) [ofSnippets, Piece.unquoted, unquote_of_bare, unquoted_ofDocuments,
    unquoted_ofCallOptions h.2.2.2]

theorem unquoted_ofBatchRow (how : Store) {target : Value} {columns : List Value} {row : Value}
    (h : AllBare (Leaf.ofBatchRow c target columns row)) :
    (ofBatchRow c how target columns row).unquoted =
      ofBatchRow c.unquoted how target columns row := by
  unfold Leaf.ofBatchRow at h
  unfold ofBatchRow
  split
  · rfl
  · split
    · rename_i hwidth
      simp only [‹row.elements? = _›, hwidth, if_true] at h
      rw [unquoted_append, unquoted_naming, unquoted_ofCells h, Connection.knownIndex_unquoted]
    · rfl

section

variable (hd : c.dialect.OnlyQuotes)
include hd

theorem unquote_storeHead (how : Store) {target : Value} {columns : List Value}
    (h : AllBare (Leaf.ofStoreHead target columns)) :
    unquote (storeHead c how target columns) = storeHead c.unquoted how target columns := by
  obtain ⟨htarget, hcolumns⟩ := Leaf.allBare_cons.1 h
  rw [Leaf.allBare_map] at hcolumns
  have hword : unquote how.keyword = how.keyword := unquote_of_bare (by cases how <;> decide)
  simp (disch := decide) [storeHead, unquote_of_bare, hword, unquote_quotedColumns hd hcolumns,
    unquote_quoteValue hd (Leaf.bare_quoted.1 htarget)]

theorem unquoted_ofStore (how : Store) {target cells : Value}
    (h : AllBare (Leaf.ofStore c target cells)) :
    (ofStore c how target cells).unquoted = ofStore c.unquoted how target cells := by
  cases cells with
  | map pairs =>
    obtain ⟨hhead, hcells⟩ := Leaf.allBare_append.1 h
    simp [ofStore, Piece.unquoted, unquote_storeHead hd how hhead, unquoted_ofCells hcells]
  | _ => rfl

theorem unquoted_ofBatch (how : Store) {target columns rows : Value}
    (h : AllBare (Leaf.ofBatch c target columns rows)) :
    (ofBatch c how target columns rows).unquoted =
      ofBatch c.unquoted how target columns rows := by
  unfold Leaf.ofBatch at h
  unfold ofBatch
  split
  · simp only [‹columns.elements? = _›, ‹rows.elements? = _›] at h
    obtain ⟨hhead, hrows⟩ := Leaf.allBare_append.1 h
    rw [Leaf.allBare_flatMap] at hrows
    have hmap := map_unquoted fun row hrow => unquoted_ofBatchRow how (hrows row hrow)
    rw [unquoted_append, unquoted_naming, unquoted_cons, Piece.unquoted,
      unquote_storeHead hd how hhead, unquoted_join, hmap, unquote_of_bare (by decide)]
  · rfl

variable (hs : Bare c.settings.separator)
include hs

theorem unquoted_ofRowCondition {target tree : Value}
    (h : AllBare (Leaf.ofRowCondition c target tree)) :
    (ofRowCondition c target tree).unquoted = ofRowCondition c.unquoted target tree := by
  rw [ofRowCondition, unquoted_after, unquoted_condition hd hs _ _ h, unquote_of_bare (by decide),
    ofRowCondition, Connection.knownIndex_unquoted]

theorem unquoted_ofUpdate {target cells tree options : Value}
    (h : AllBare (Leaf.ofUpdate c target cells tree options)) :
    (ofUpdate c target cells tree options).unquoted =
      ofUpdate c.unquoted target cells tree options := by
  cases cells with
  | map pairs =>
    simp only [Leaf.ofUpdate, Leaf.allBare_cons, Leaf.allBare_append, Leaf.allBare_flatMap,
      Leaf.bare_quoted] at h
    obtain ⟨htarget, hcells, htree, hoptions⟩ := h
    have hmap := map_unquoted (s := pairs)
        (f := fun cell => .text (c.quoteValue cell.1 ++ "=") ::
          ofCell (c.knownIndex target) cell.1 cell.2)
        (g := fun cell => .text (c.unquoted.quoteValue cell.1 ++ "=") ::
          ofCell (c.knownIndex target) cell.1 cell.2) <| by
      intro cell hcell
      obtain ⟨hcolumn, hv⟩ := hcells cell hcell
      simp (disch := decide) [Piece.unquoted, unquote_quoteValue hd hcolumn, unquote_of_bare,
        unquoted_ofCell hv]
    simp (disch := decide) only [ofUpdate, unquoted_joinPresent, List.map_cons, List.map_nil,
      unquoted_append, unquoted_naming, unquoted_cons, Piece.unquoted, unquote_append,
      unquote_quoteValue hd htarget, unquoted_join, hmap, unquoted_ofRowCondition hd hs htree,
      unquoted_ofOptionMapping hoptions, unquote_of_bare, Connection.quoteValue_unquoted,
      Connection.knownIndex_unquoted]
  | _ => rfl

theorem unquoted_ofDelete {target tree : Value} (h : AllBare (Leaf.ofDelete c target tree)) :
    (ofDelete c target tree).unquoted = ofDelete c.unquoted target tree := by
  obtain ⟨htarget, htree⟩ := Leaf.allBare_cons.1 h
  simp (disch := decide) [ofDelete, Piece.unquoted,
    unquote_quoteValue hd (Leaf.bare_quoted.1 htarget), unquoted_ofRowCondition hd hs htree,
    unquote_of_bare]

end

end Layout

/-! ## Answers -/

/-- A statement without back-quotes, of the dialect that has none. -/
def Compiled.unquoted (k : Compiled) : Compiled := ⟨unquote k.sql, k.params, Dialect.sphinx.name⟩

/-- A text without its back-quotes; other values stay. -/
def Value.unquoted : Value → Value
  | .text s => .text (unquote s)
  | v => v

/-- An answer without the back-quotes in it, of the dialect that has none. -/
def Answer.unquoted : Answer → Answer
  | .statement compiled => .statement compiled.unquoted
  | .selection compiled entities => .selection compiled.unquoted entities
  | .text v => .text v.unquoted
  | .index found => .index found

/-- What a request supplies to the text of its answer. -/
def Connection.supplied (c : Connection) : Request → List Leaf
  | .columns v => (ListedColumn.listOf v).toOption.elim [] (·.flatMap Leaf.ofColumn)
  | .order v => Leaf.ofCheckedOrder (OrderTerm.listOf v)
  | .orderAndWindow sql order _ _ =>
    .verbatim sql.display :: Leaf.ofCheckedOrder (OrderTerm.listOf order)
  | .quote name => [.quoted name.display]
  | .escapeMatch text => [.verbatim text.display]
  | r => (c.leaves? r).getD []

/-- Escaping puts no back-quote into a text. -/
theorem Match.bare_escape {s : String} (h : Bare s) : Bare (escape s) := by
  rw [Bare, toList_escape, List.mem_flatMap]
  rintro ⟨c, hc, hmem⟩
  have hne : Dialect.backQuote ≠ c := (ne_of_mem_of_not_mem hc h).symm
  revert hmem
  rw [escapeChar]
  repeat' split
  all_goals simp [hne]
  all_goals decide

namespace Connection

open Layout
open Leaf (AllBare)

variable {c : Connection}

section

variable (hstem : Bare c.settings.paramStem)
include hstem

theorem compile_unquoted (params : Value) (l : Layout) :
    (c.compile params l).map Compiled.unquoted = c.unquoted.compile params l.unquoted := by
  have hrender := render_unquoted hstem (ofCaller params ++ l) .empty
  rw [unquoted_append, unquoted_ofCaller] at hrender
  rw [compile, compile, settings_unquoted, hrender]
  cases (ofCaller params ++ l).render c.settings.paramStem .empty <;> rfl

theorem clause_unquoted (l : Layout) : (c.clause l).map unquote = c.unquoted.clause l.unquoted := by
  rw [clause, clause, settings_unquoted, render_unquoted hstem l .empty]
  cases l.render c.settings.paramStem .empty <;> rfl

/-- A statement that is laid out. -/
theorem statement_unquoted {params : Value} {l r : Layout} (h : l.unquoted = r) :
    (do return .statement (← c.compile params l) : Checked Answer).map Answer.unquoted =
      do return .statement (← c.unquoted.compile params r) := by
  rw [← h, ← compile_unquoted hstem]
  cases c.compile params l <;> rfl

/-- A text that is laid out. -/
theorem text_unquoted {l r : Layout} (h : l.unquoted = r) :
    (do return .text (.text (← c.clause l)) : Checked Answer).map Answer.unquoted =
      do return .text (.text (← c.unquoted.clause r)) := by
  rw [← h, ← clause_unquoted hstem]
  cases c.clause l <;> rfl

end

theorem indexes_unquoted (l : Layout) : l.unquoted.indexes = l.indexes := by
  induction l with
  | nil => rfl
  | cons piece l ih => cases piece <;> simp [Piece.unquoted, Layout.indexes, ih]

theorem bare_keywordsText {textName indexName : String} (htext : Bare textName)
    (hindex : Bare indexName) (statistics : Bool) :
    Bare (keywordsText textName indexName statistics) := by
  have hsuffix : Bare (if statistics then ", 1" else "") := by cases statistics <;> decide
  unfold keywordsText
  simp only [bare_append, htext, hindex, hsuffix, and_true]
  decide

/-- The call for keywords is written by itself. -/
theorem keywords_unquoted (hstem : Bare c.settings.paramStem) (target text : Value)
    (statistics : Bool) (params : Value) :
    (c.keywords target text statistics params).map Compiled.unquoted =
      c.unquoted.keywords target text statistics params := by
  have hname (p : Params) : Bare (p.nextName c.settings.paramStem) :=
    bare_append.2 ⟨hstem, bare_toString _⟩
  rw [keywords, keywords, settings_unquoted]
  cases (Layout.ofCaller params).render c.settings.paramStem .empty with
  | error f => rfl
  | ok found =>
    simp only [bind, Except.bind, pure, Except.pure, Except.map, Compiled.unquoted]
    rw [unquote_of_bare (bare_keywordsText (hname _) (hname _) statistics)]
    rfl

theorem unquoted_queryLayout (hd : c.dialect.OnlyQuotes) (hs : c.settings.Bare) {q : Query}
    (h : AllBare ((Selection.ofQuery q).leaves c ++ Leaf.ofShowMeta c q.showMeta)) :
    (c.queryLayout q).unquoted = c.unquoted.queryLayout q := by
  obtain ⟨hselection, hmeta⟩ := Leaf.allBare_append.1 h
  rw [queryLayout, unquoted_append, unquoted_selection hd hs.separator _ hselection,
    unquoted_after, unquoted_ofShowMeta hmeta, unquote_of_bare hs.querySeparator, queryLayout,
    settings_unquoted]

/-- A query, with the indexes that its statement searches. -/
theorem build_unquoted (hd : c.dialect.OnlyQuotes) (hs : c.settings.Bare) {query params : Value}
    (h : AllBare (c.supplied (.build query params))) :
    (c.answer (.build query params)).map Answer.unquoted =
      c.unquoted.answer (.build query params) := by
  simp only [answer]
  cases hquery : Query.ofValue query with
  | error f => rfl
  | ok q =>
    simp only [supplied, leaves?, hquery, Except.toOption, Option.map_some, Option.getD_some] at h
    have hlayout := unquoted_queryLayout hd hs (Leaf.allBare_append.1 h).2
    have hentities : c.unquoted.entities q params = c.entities q params := by
      have hindexes := indexes_unquoted (Layout.ofCaller params ++ c.queryLayout q)
      rw [unquoted_append, unquoted_ofCaller, hlayout] at hindexes
      exact hindexes
    have hbuild : (c.build q params).map Compiled.unquoted = c.unquoted.build q params := by
      rw [build, build, compile_unquoted hs.paramStem, hlayout]
    simp only [bind, Except.bind, hentities, ← hbuild]
    cases c.build q params <;> rfl

/-- An order, and the rows that are returned, behind a text. -/
theorem orderAndWindow_unquoted (hd : c.dialect.OnlyQuotes) (hs : c.settings.Bare)
    {sql order limit offset : Value}
    (h : AllBare (c.supplied (.orderAndWindow sql order limit offset))) :
    (c.orderAndWindow sql order limit offset).map Value.unquoted =
      c.unquoted.orderAndWindow sql order limit offset := by
  obtain ⟨hsql, horder⟩ := Leaf.allBare_cons.1 h
  have hsql : Bare sql.display := hsql
  have hvalue : sql.unquoted = sql := by
    cases sql with
    | text s => exact congrArg Value.text (unquote_of_bare hsql)
    | _ => rfl
  simp only [orderAndWindow]
  cases hterms : OrderTerm.listOf order with
  | error f => rfl
  | ok terms =>
    rw [hterms] at horder
    have hfilter := filter_map_unquoted [Layout.ofOrder c terms, Layout.ofWindow c limit offset]
    simp only [List.map_cons, List.map_nil, unquoted_ofOrder hd horder, unquoted_ofWindow]
      at hfilter
    simp only [bind, Except.bind, hfilter]
    cases [Layout.ofOrder c terms, Layout.ofWindow c limit offset].filter (!·.isEmpty) with
    | nil => exact congrArg Except.ok hvalue
    | cons l ls =>
      have hjoin : (Layout.join c.settings.separator ([.text sql.display] :: l :: ls)).unquoted =
          Layout.join c.settings.separator
            ([.text sql.display] :: (l :: ls).map Layout.unquoted) := by
        rw [unquoted_join, unquote_of_bare hs.separator]
        simp [Piece.unquoted, unquote_of_bare hsql]
      rcases sql.shown_eq_or with hshown | hshown <;> rw [hshown]
      · simp only [List.map_cons, settings_unquoted] at hjoin ⊢
        rw [← hjoin, ← clause_unquoted hs.paramStem]
        cases c.clause (Layout.join c.settings.separator ([.text sql.display] :: l :: ls)) <;> rfl
      · rfl

/-- **The answers of a dialect that adds only back-quotes.** -/
theorem answer_unquoted (hd : c.dialect.OnlyQuotes) (hs : c.settings.Bare) {r : Request}
    (h : AllBare (c.supplied r)) : (c.answer r).map Answer.unquoted = c.unquoted.answer r := by
  have hstem := hs.paramStem
  cases r with
  | build query params => exact build_unquoted hd hs h
  | condition tree names params =>
    refine statement_unquoted hstem ?_
    cases hnames : names.elements? with
    | none => rfl
    | some found =>
      simp only [supplied, leaves?, hnames, Option.map_some, Option.getD_some] at h
      exact unquoted_condition hd hs.separator _ _ (Leaf.allBare_append.1 h).2
  | columns v =>
    simp only [answer, columns, supplied] at h ⊢
    cases hcolumns : ListedColumn.listOf v with
    | error f => rfl
    | ok found =>
      rw [hcolumns] at h
      exact text_unquoted hstem (unquoted_ofColumns hd h)
  | order v =>
    simp only [answer, order, supplied] at h ⊢
    cases hterms : OrderTerm.listOf v with
    | error f => rfl
    | ok terms =>
      rw [hterms] at h
      exact text_unquoted hstem (unquoted_ofOrder hd h)
  | window limit offset => exact text_unquoted hstem (unquoted_ofWindow limit offset)
  | orderAndWindow sql order limit offset =>
    rw [answer, answer, ← orderAndWindow_unquoted hd hs h]
    cases c.orderAndWindow sql order limit offset <;> rfl
  | store how target cells params =>
    exact statement_unquoted hstem (unquoted_ofStore hd how (Leaf.allBare_append.1 h).2)
  | batch how target names rows params =>
    exact statement_unquoted hstem (unquoted_ofBatch hd how (Leaf.allBare_append.1 h).2)
  | update target cells tree params options =>
    exact statement_unquoted hstem
      (unquoted_ofUpdate hd hs.separator (Leaf.allBare_append.1 h).2)
  | delete target tree params =>
    exact statement_unquoted hstem
      (unquoted_ofDelete hd hs.separator (Leaf.allBare_append.1 h).2)
  | truncate target =>
    have htarget : Bare target.display := by simpa [supplied, leaves?] using h
    refine statement_unquoted hstem ?_
    simp (disch := decide) [ofTruncate, Piece.unquoted, unquote_quoteValue hd htarget,
      unquote_of_bare]
  | snippets target source query options params =>
    exact statement_unquoted hstem (unquoted_ofSnippets (Leaf.allBare_append.1 h).2)
  | keywords target text statistics params =>
    rw [answer, answer, ← keywords_unquoted hstem]
    cases c.keywords target text statistics.truthy params <;> rfl
  | quote name =>
    have hname : Bare name.display := by simpa [supplied] using h
    rw [answer, answer]
    rcases name.shown_eq_or with hshown | hshown <;> rw [hshown]
    · have hquote : unquote (c.quote name.display) = c.unquoted.quote name.display := by
        rw [unquote_quote hd hname, quote_unquoted]
      exact congrArg (fun s => Except.ok (Answer.text (.text s))) hquote
    · rfl
  | escapeMatch text =>
    have htext : Bare text.display := by simpa [supplied] using h
    cases text with
    | text s =>
      exact congrArg (fun s => Except.ok (Answer.text (.text s)))
        (unquote_of_bare (Match.bare_escape htext))
    | _ => rfl
  | index name => rfl
  | lastInsertId => rfl

/-- **The two dialects differ in back-quotes only.** Of a request that supplies no back-quote, to
connections with the same indexes and the same settings, the answer with quotes is the answer
without them but for the back-quotes in its text: the faults, the parameters and the indexes
that are searched are the same. -/
theorem answer_manticore (snapshot : Option Snapshot) {settings : Settings} (hs : settings.Bare)
    {r : Request} (h : AllBare ((⟨snapshot, .manticore, settings⟩ : Connection).supplied r)) :
    ((⟨snapshot, .manticore, settings⟩ : Connection).answer r).map Answer.unquoted =
      (⟨snapshot, .sphinx, settings⟩ : Connection).answer r :=
  answer_unquoted (c := ⟨snapshot, .manticore, settings⟩) Dialect.onlyQuotes_manticore hs h

/-- The books of a shop on a shelf, the newest first. -/
def onShelf (shelf : Value) : Request :=
  .build (.query { Clauses.empty with
    select := .positional [.text "id", .text "count(*) AS n"]
    source := .positional [.text "shop.books b"]
    condition := .map [(.text "b.shelf", shelf)]
    orderBy := [("year", .text "desc")] }) .null

theorem answer_manticore_onShelf :
    let c : Connection := ⟨none, .manticore, {}⟩
    c.settings.Bare ∧ AllBare (c.supplied (onShelf (.text "\x60"))) ∧
      (c.answer (onShelf (.text "\x60"))).map Answer.unquoted =
        standard.answer (onShelf (.text "\x60")) ∧
      ((c.answer (onShelf (.text "\x60"))).toOption.bind Answer.compiled?).map (·.sql) =
        some ("SELECT \x60id\x60, count(*) AS n FROM \x60shop\x60.\x60books\x60 \x60b\x60 " ++
          "WHERE \x60b\x60.\x60shelf\x60=:qp0 ORDER BY \x60year\x60 DESC") := by
  have hs : Settings.Bare {} := ⟨by decide, by decide, by decide⟩
  have hleaves : (⟨none, .manticore, {}⟩ : Connection).supplied (onShelf (.text "\x60")) =
      [.given [], .quoted "id", .quoted "count(*) AS n", .quoted "shop.books", .quoted "b",
        .quoted "b.shelf", .bound (.text "\x60"), .quoted "year"] := by
    rfl
  have hbare : AllBare ((⟨none, .manticore, {}⟩ : Connection).supplied
      (onShelf (.text "\x60"))) := by
    rw [hleaves]
    simp only [Leaf.allBare_cons, Leaf.bare_given, Leaf.bare_quoted, Leaf.bare_bound,
      Leaf.allBare_nil]
    decide
  exact ⟨hs, hbare, answer_manticore none hs hbare, by decide +kernel⟩

end Connection

end SearchSql

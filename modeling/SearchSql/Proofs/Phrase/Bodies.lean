import SearchSql.Proofs.Phrase.Parts
import SearchSql.Proofs.Phrase.Seen
import SearchSql.Proofs.Subquery.Nesting

/-!
# The bodies of keywords

Clauses for which nothing is given are left out. Whether something is given is decided before the
body is written, and in three places the body may be empty all the same: a grouping by a text that
is nothing but commas and blanks, a change of no columns, and a batch without rows. There the
keyword stands with nothing behind it. Everywhere else the body of a keyword is seen, if the names
and the fragments are that are supplied.

## Main definitions

* `Query.Shown`, `Request.Shown` — the names and fragments that are supplied are seen.
* `Query.GroupsByNothing` — a text is given that lists no columns.
* `Connection.Bare` — the phrases that have no body.

## Main statements

* `Query.isSeen_body` — the bodies in a query, clause by clause.
* `Connection.isSeen_body_of_line?` — the bodies in a statement that changes an index.
-/
namespace SearchSql

open Layout

/-! ## Bodies of phrases -/

namespace Part

variable {c : Connection} {stem : String} {p : Phrase}

theorem phrase_mem_phraseUnless {isLeftOut : Bool} {q : Phrase} :
    .phrase p ∈ phraseUnless isLeftOut q ↔ isLeftOut = false ∧ p = q := by
  cases isLeftOut <;> simp [phraseUnless]

theorem isSeen_ordering (hd : c.dialect.KeepsSeen) {keyword : Keyword} {spelled : Bool}
    {terms : List OrderTerm} (h : ∀ term ∈ terms, term.Shown)
    (hp : .phrase p ∈ ordering c keyword spelled terms) : p.body.IsSeen stem := by
  obtain ⟨hne, rfl⟩ := phrase_mem_phraseUnless.1 hp
  exact isSeen_join_map (by simpa using hne) fun term hterm =>
    isSeen_ofOrderTerm hd spelled (h term hterm)

theorem isSeen_namedOptions {given : List (String × Value)} (hne : given ≠ []) :
    (namedOptions given).IsSeen stem :=
  isSeen_join_map hne fun _ _ => isSeen_text_append _ (by decide) _

theorem isSeen_options {given : List (String × Value)} (hp : .phrase p ∈ options given) :
    p.body.IsSeen stem := by
  obtain ⟨hne, rfl⟩ := phrase_mem_phraseUnless.1 hp
  exact isSeen_namedOptions (by simpa using hne)

theorem isSeen_optionMapping {given : Value} (hp : .phrase p ∈ optionMapping given) :
    p.body.IsSeen stem := by
  unfold optionMapping at hp
  split at hp
  · cases hp
  · cases given with
    | map pairs =>
      obtain ⟨hne, rfl⟩ := phrase_mem_phraseUnless.1 hp
      exact isSeen_namedOptions (by simpa using hne)
    | _ => simp at hp

/-- The condition behind a keyword. -/
theorem isSeen_condition (hd : c.dialect.KeepsSeen) {keyword : Keyword} {indexes : List Index}
    {condition : Condition} (h : condition.Shown)
    (hp : .phrase p ∈ phraseAfter keyword (condition.layout c indexes)) (hs : p.body.Sound) :
    p.body.IsSeen stem := by
  obtain ⟨hne, rfl⟩ := phrase_mem_phraseUnless.1 hp
  exact condition.isSeen_layout hd indexes h hs (by simpa using hne)

/-- The full-text query and the condition behind a keyword. -/
theorem isSeen_filter (hd : c.dialect.KeepsSeen) {fulltext : Value} {indexes : List Index}
    {condition : Condition} (h : condition.Shown)
    (hp : .phrase p ∈ phraseAfter .filter
      (filterBody fulltext condition.isOmitted (condition.layout c indexes)))
    (hs : p.body.Sound) : p.body.IsSeen stem := by
  by_cases hnull : fulltext.isNull = true
  · obtain rfl : fulltext = .null := by cases fulltext <;> simp_all [Value.isNull]
    exact isSeen_condition hd h hp hs
  · have hbody : filterBody fulltext condition.isOmitted (condition.layout c indexes) =
        if condition.isOmitted then ofFulltext fulltext
        else connect "AND" [ofFulltext fulltext, condition.layout c indexes] := by
      cases fulltext <;> first | rfl | exact absurd rfl hnull
    obtain ⟨hne, rfl⟩ := phrase_mem_phraseUnless.1 hp
    simp only [hbody, List.isEmpty_eq_false_iff] at hne ⊢
    by_cases homitted : condition.isOmitted = true
    · rw [if_pos homitted]
      exact isSeen_ofFulltext _
    · rw [if_neg homitted] at hne ⊢
      exact isSeen_connect hne

theorem isSeen_facet (hd : c.dialect.KeepsSeen) {given : Checked Facet}
    (h : ∀ facet, given = .ok facet → facet.Shown) (hp : .phrase p ∈ facet c given) :
    p.body.IsSeen stem := by
  cases given with
  | error f => simp [facet] at hp
  | ok given =>
    have hshown := h given rfl
    rcases List.mem_cons.1 hp with hfields | hp
    · obtain rfl := Part.phrase.inj hfields
      exact isSeen_ofFields hd hshown.fields
    · rcases List.mem_append.1 hp with horder | hwindow
      · cases hterms : given.order with
        | ok terms =>
          rw [hterms] at horder
          exact isSeen_ordering hd (hshown.order terms hterms) horder
        | error f => simp [hterms, checkedOrder] at horder
      · simp at hwindow

end Part

/-! ## Queries -/

/-- The names and fragments in a query that may stand by themselves are seen. Of a grouping that is
given as a text this need not be asked. -/
structure Query.Shown (q : Query) : Prop where
  /-- Those of the fields. -/
  fields : ∀ entry ∈ q.select.toEntries, (Field.ofEntry entry).Shown
  /-- Those of the sources. -/
  sources : ∀ source ∈ Source.listOf q.source, source.Shown
  /-- Those of the condition on rows. -/
  condition : (Condition.ofValue q.condition).Shown
  /-- The columns that rows are grouped by, given in a list. -/
  groupBy : ∀ items, q.groupBy = .columns items → ∀ v ∈ items, (ListedColumn.ofValue v).Shown
  /-- Those of the order of rows within a group. -/
  within : ∀ pair ∈ q.within, (OrderTerm.ofPair pair.1 pair.2).Shown
  /-- Those of the condition on groups. -/
  having : (Condition.ofValue q.having).Shown
  /-- Those of the order of the result. -/
  orderBy : ∀ pair ∈ q.orderBy, (OrderTerm.ofPair pair.1 pair.2).Shown
  /-- Those of the facets. -/
  facets : ∀ entry ∈ q.facets.toEntries, ∀ facet, Facet.ofEntry entry = .ok facet → facet.Shown

/-- A grouping that lists no column, though something is given: a text of commas and blanks. -/
def Query.GroupsByNothing (q : Query) : Prop :=
  ∃ s, q.groupBy = .text s ∧ s ≠ "" ∧ ∀ a ∈ s.toList, a = ',' ∨ Text.isBlank a = true

/-- The phrase for a grouping by no column. -/
def Phrase.groupsNothing : Phrase := { keyword := .groups, body := [] }

namespace Query

variable {c : Connection} {stem : String} {p : Phrase}

/-- The phrase for a grouping. -/
theorem isSeen_grouping (hd : c.dialect.KeepsSeen) {q : Query} (hq : q.Shown)
    (hp : .phrase p ∈ Part.grouping c (Selection.ofQuery q).groupBy) :
    p.body.IsSeen stem ∨ q.GroupsByNothing ∧ p = .groupsNothing := by
  rw [Selection.ofQuery_groupBy] at hp
  match hgroups : q.groupBy with
  | .columns [] => simp [hgroups, Part.grouping] at hp
  | .columns (v :: rest) =>
    simp only [hgroups] at hp
    obtain rfl := Part.phrase.inj (List.mem_singleton.1 hp)
    refine .inl (isSeen_join_map (by simp) fun column hcolumn => isSeen_ofColumn hd ?_)
    obtain ⟨item, hitem, rfl⟩ := List.mem_map.1 hcolumn
    exact hq.groupBy _ hgroups item hitem
  | .text s =>
    by_cases hempty : s.isEmpty = true
    · simp [hgroups, hempty, Part.grouping] at hp
    · simp only [hgroups, hempty] at hp
      obtain rfl := Part.phrase.inj (List.mem_singleton.1 hp)
      by_cases hnone : ListedColumn.ofText s = []
      · have hnothing : q.GroupsByNothing :=
          ⟨s, hgroups, by simpa using hempty, ListedColumn.ofText_eq_nil_iff.1 hnone⟩
        rw [hnone]
        exact .inr ⟨hnothing, rfl⟩
      · exact .inl (isSeen_join_map hnone fun column hcolumn =>
          isSeen_ofColumn hd (ListedColumn.shown_of_mem_ofText hcolumn))

/-- **The body of each phrase in a query is seen**, but for a grouping by nothing. -/
theorem isSeen_body (hd : c.dialect.KeepsSeen) {q : Query} (hq : q.Shown) {line : List Part}
    (hline : line ∈ (Selection.ofQuery q).lines c) (hp : .phrase p ∈ line) (hs : p.body.Sound) :
    p.body.IsSeen stem ∨ q.GroupsByNothing ∧ p = .groupsNothing := by
  simp only [Selection.lines, List.mem_append, List.mem_cons, List.not_mem_nil, or_false,
    Selection.ofQuery_fields, Selection.ofQuery_sources, Selection.ofQuery_condition,
    Selection.ofQuery_within, Selection.ofQuery_having, Selection.ofQuery_order,
    Selection.ofQuery_options, Selection.ofQuery_facets] at hline
  rcases hline with (rfl | rfl | rfl | rfl | rfl | rfl | rfl | rfl | rfl) | hfacet
  · obtain rfl := Part.phrase.inj (List.mem_singleton.1 hp)
    exact .inl (isSeen_ofFields hd (List.forall_mem_map.2 hq.fields))
  · obtain ⟨hne, rfl⟩ := Part.phrase_mem_phraseUnless.1 hp
    exact .inl (isSeen_sources hd hq.sources (by simpa using hne))
  · exact .inl (Part.isSeen_filter hd hq.condition hp hs)
  · exact isSeen_grouping hd hq hp
  · exact .inl (Part.isSeen_ordering hd (List.forall_mem_map.2 hq.within) hp)
  · exact .inl (Part.isSeen_condition hd hq.having hp hs)
  · exact .inl (Part.isSeen_ordering hd (List.forall_mem_map.2 hq.orderBy) hp)
  · simp at hp
  · exact .inl (Part.isSeen_options hp)
  · obtain ⟨facet, hmem, rfl⟩ := List.mem_map.1 hfacet
    obtain ⟨entry, hentry, rfl⟩ := List.mem_map.1 hmem
    exact .inl (Part.isSeen_facet hd (hq.facets entry hentry) hp)

end Query

/-! ## Statements that change an index -/

/-- The names and fragments in a request that may stand by themselves are seen. -/
structure Request.Shown (r : Request) : Prop where
  /-- Those of the queries in it. -/
  queries : ∀ q, r.Holds q → q.Shown
  /-- Those of the condition on the rows that are changed. -/
  update : ∀ target cells tree params options, r = .update target cells tree params options →
    (Condition.ofValue tree).Shown
  /-- Those of the condition on the rows that are deleted. -/
  delete : ∀ target tree params, r = .delete target tree params → (Condition.ofValue tree).Shown

namespace Connection

/-- The phrases that have no body: a keyword stands with nothing behind it. -/
inductive Bare (c : Connection) : Request → Phrase → Prop where
  /-- Rows are grouped by nothing in a query. -/
  | groups {r : Request} {q : Query} (hq : r.Holds q) (hgroups : q.GroupsByNothing) :
    Bare c r .groupsNothing
  /-- No columns are changed. -/
  | changes (target tree params options : Value) :
    Bare c (.update target (.map []) tree params options) (.changed c target [])
  /-- No rows are stored. -/
  | rows (how : Store) (target params : Value) {names rows : Value} {columns : List Value}
    (hnames : names.elements? = some columns) (hrows : rows.elements? = some []) :
    Bare c (.batch how target names rows params) (.stored c how target columns [])

variable {c : Connection} {stem : String} {r : Request} {p : Phrase}

theorem Bare.body_eq_nil (h : c.Bare r p) : p.body = [] := by
  cases h <;> rfl

theorem isSeen_ofBatchRow {how : Store} {target row : Value} {columns : List Value}
    (hs : (ofBatchRow c how target columns row).Sound) :
    (ofBatchRow c how target columns row).IsSeen stem := by
  rw [ofBatchRow] at hs ⊢
  cases hrow : row.elements? with
  | none => simp [hrow, Piece.isFault] at hs
  | some values =>
    simp only [hrow] at hs ⊢
    by_cases hwidth : values.length = columns.length
    · rw [if_pos hwidth]
      exact (isSeen_enclose (by decide) _ _).of_isInfix (List.prefix_append ..).isInfix
    · simp [hwidth, Piece.isFault] at hs

/-- **The body of each phrase in a statement that changes an index is seen**, unless nothing is
changed or stored. -/
theorem isSeen_body_of_line? (hd : c.dialect.KeepsSeen) (hr : r.Shown) {parts : List Part}
    (hline : r.line? c = some parts) (hp : .phrase p ∈ parts) (hs : p.body.Sound) :
    p.body.IsSeen stem ∨ c.Bare r p := by
  cases r with
  | store how target cells params =>
    cases cells with
    | map cells =>
      obtain rfl := Option.some.inj hline
      obtain rfl := Part.phrase.inj (List.mem_singleton.1 hp)
      exact .inl (isSeen_enclose (by decide) _ _)
    | _ => cases hline
  | batch how target names rows params =>
    obtain ⟨columns, items, hnames, hrows, rfl⟩ := Request.exists_of_line?_batch hline
    obtain rfl := Part.phrase.inj (List.mem_singleton.1 hp)
    by_cases hitems : items = []
    · subst hitems
      exact .inr (.rows how target params hnames hrows)
    · refine .inl (isSeen_join_map hitems fun row hrow => isSeen_ofBatchRow ?_)
      exact hs.of_isInfix (infix_join ", " (List.mem_map_of_mem hrow))
  | update target cells tree params options =>
    cases cells with
    | map cells =>
      obtain rfl := Option.some.inj hline
      rcases List.mem_cons.1 hp with hchanged | hp
      · obtain rfl := Part.phrase.inj hchanged
        by_cases hcells : cells = []
        · subst hcells
          exact .inr (.changes target tree params options)
        · exact .inl (isSeen_join_map hcells fun _ _ => isSeen_text_append _ (by decide) _)
      · rcases List.mem_append.1 hp with hcondition | hoptions
        · exact .inl (Part.isSeen_condition hd (hr.update _ _ _ _ _ rfl) hcondition hs)
        · exact .inl (Part.isSeen_optionMapping hoptions)
    | _ => cases hline
  | delete target tree params =>
    obtain rfl := Option.some.inj hline
    rcases List.mem_cons.1 hp with hfront | hcondition
    · cases hfront
    · exact .inl (Part.isSeen_condition hd (hr.delete _ _ _ rfl) hcondition hs)
  | _ => cases hline

end Connection

end SearchSql

import SearchSql.Proofs.Condition.Context
import SearchSql.Proofs.Layout.Writing

/-!
# What stands in a layout

However layouts are put together, each of them stands in the result as it is: its pieces one
after the other, with other pieces in front of them and behind them.

## Main definitions

* `Source.ReadFrom` — the entry that a source is read from.
* `Selection.clauses` — the layouts of the clauses of a selection.

## Main statements

* `Layout.infix_join`, `Layout.infix_connect` — one layout among several.
* `Condition.Context.infix_wrap` — what is in a place of a condition.
* `Source.listOf_eq_mapIdx` — the sources of a query, each from the entry in its place.
* `Selection.ofQuery_eq` — the clauses of a query, each from what is given for it.
* `Selection.infix_layout` — one clause of a selection.
-/
namespace SearchSql

theorem not_isEmpty_of_mem {α : Type} {a : α} {l : List α} (h : a ∈ l) : ¬ l.isEmpty :=
  fun hempty => List.ne_nil_of_mem h (List.isEmpty_iff.1 hempty)

namespace Layout

variable {l : Layout} {ls : List Layout}

theorem Sound.of_isInfix {whole : Layout} (h : whole.Sound) (hl : l <:+: whole) : l.Sound :=
  fun piece hpiece => h piece (hl.subset hpiece)

/-- What stands in a layout is written where it stands. -/
theorem exists_charsAt_infix (stem : String) {l whole : Layout} (h : l <:+: whole)
    (p : Params) : ∃ start, l.charsAt stem start <:+: whole.charsAt stem p := by
  obtain ⟨before, behind, rfl⟩ := h
  exact ⟨paramsAfter stem before p, charsAt stem before p,
    charsAt stem behind (paramsAfter stem (before ++ l) p), by rw [charsAt_append, charsAt_append]⟩

theorem infix_enclose (opening : String) (l : Layout) (closing : String) :
    l <:+: enclose opening l closing :=
  ⟨[.text opening], [.text closing], rfl⟩

theorem infix_after (opening : String) (l : Layout) : l <:+: after opening l := by
  rw [after]
  split
  · rename_i hempty
    rw [List.isEmpty_iff.1 hempty]
  · exact List.infix_cons (List.infix_refl l)

theorem infix_negate (l : Layout) : l <:+: l.negate := by
  rw [negate]
  split
  · rename_i hempty
    rw [List.isEmpty_iff.1 hempty]
  · exact infix_enclose ..

theorem infix_join (separator : String) (h : l ∈ ls) : l <:+: join separator ls := by
  induction ls with
  | nil => cases h
  | cons first rest ih =>
    cases rest with
    | nil => rw [join_singleton, List.mem_singleton.1 h]
    | cons second rest =>
      rw [join_cons_cons]
      rcases List.mem_cons.1 h with rfl | hrest
      · exact (List.prefix_append ..).isInfix
      · exact (List.infix_cons (ih hrest)).trans (List.suffix_append ..).isInfix

/-- A layout that is left out stands anywhere, any other one is present. -/
theorem infix_of_mem_present {whole : Layout} (h : l ∈ ls)
    (hpresent : l ∈ ls.filter (!·.isEmpty) → l <:+: whole) : l <:+: whole := by
  cases l with
  | nil => exact List.nil_infix
  | cons piece l => exact hpresent (List.mem_filter.2 ⟨h, rfl⟩)

theorem infix_joinPresent (separator : String) (h : l ∈ ls) : l <:+: joinPresent separator ls :=
  infix_of_mem_present h (infix_join separator)

theorem infix_connect (word : String) (h : l ∈ ls) : l <:+: connect word ls := by
  refine infix_of_mem_present h fun hpresent => ?_
  rw [connect]
  split
  · rename_i hnone
    rw [hnone] at hpresent
    cases hpresent
  · exact (infix_join _ hpresent).trans (infix_enclose ..)

theorem infix_ofRecord (h : l ∈ ls) : l <:+: ofRecord ls := by
  match ls with
  | [entry] => rw [List.mem_singleton.1 h, ofRecord]
  | [] => cases h
  | _ :: _ :: _ => exact infix_connect _ h

/-- The condition stands behind the full-text query, if it is given. -/
theorem infix_ofFilter {isOmitted : Bool} (h : isOmitted = true → l = []) (fulltext : Value) :
    l <:+: ofFilter fulltext isOmitted l := by
  have hwritten : l <:+: if isOmitted then after "WHERE " (ofFulltext fulltext)
      else after "WHERE " (connect "AND" [ofFulltext fulltext, l]) := by
    split
    · rename_i homitted
      rw [h homitted]
      exact List.nil_infix
    · exact (infix_connect "AND" (by simp)).trans (infix_after ..)
  cases fulltext with
  | null => exact infix_after ..
  | _ => exact hwritten

end Layout

namespace Condition

variable (c : Connection) (indexes : List Index)

theorem layout_of_isOmitted {condition : Condition} (h : condition.isOmitted = true) :
    condition.layout c indexes = [] := by
  cases condition <;> simp_all [isOmitted, layout]

theorem Frame.infix_wrap (frame : Frame) (l : Layout) : l <:+: frame.wrap c indexes l := by
  cases frame with
  | connected => exact Layout.infix_connect _ (by simp)
  | denied => exact Layout.infix_negate l

/-- **What is in a place of a condition stands in the condition.** -/
theorem Context.infix_wrap (context : Context) (l : Layout) :
    l <:+: context.wrap c indexes l := by
  induction context generalizing l with
  | nil => exact List.infix_refl l
  | cons frame outer ih => exact (frame.infix_wrap c indexes l).trans (ih _)

/-- What is in a place of the condition that a value describes. -/
theorem Context.infix_layoutOf (context : Context) {v : Value} {l : Layout}
    (h : l <:+: layoutOf c indexes v) : l <:+: layoutOf c indexes (context.fill v) := by
  rw [context.layout_fill]
  exact h.trans (context.infix_wrap c indexes _)

/-- A condition stands behind the check that a value can be written out. -/
theorem infix_showing (v : Value) (condition : Condition) :
    condition.layout c indexes <:+: (showing v condition).layout c indexes := by
  rw [showing]
  split
  · exact List.infix_refl _
  · exact Layout.infix_ofRecord (List.mem_cons_of_mem _ (List.mem_cons_self ..))

/-- One condition of a mapping. -/
theorem infix_layoutOf_map {entries : Mapping} {column v : Value} (h : (column, v) ∈ entries) :
    (ofEntry (.text column.display) v).layout c indexes <:+: layoutOf c indexes (.map entries) := by
  have hmem : (showing column (ofEntry (.text column.display) v)).layout c indexes ∈
      layouts c indexes (ofEntries entries) := by
    induction entries with
    | nil => cases h
    | cons entry rest ih =>
      rw [ofEntries, layouts]
      rcases List.mem_cons.1 h with rfl | hrest
      · exact List.mem_cons_self ..
      · exact List.mem_cons_of_mem _ (ih hrest)
  refine (infix_showing c indexes column _).trans ?_
  cases entries with
  | nil => cases h
  | cons entry rest =>
    rw [layoutOf, ofValue]
    · exact Layout.infix_ofRecord hmem
    · simp

end Condition

namespace Source

variable (c : Connection)

theorem layout_mem_layouts {source : Source} {sources : List Source} (h : source ∈ sources) :
    source.layout c ∈ layouts c sources := by
  induction sources with
  | nil => cases h
  | cons first rest ih =>
    rw [layouts]
    rcases List.mem_cons.1 h with rfl | hrest
    · exact List.mem_cons_self ..
    · exact List.mem_cons_of_mem _ (ih hrest)

theorem ofItems_eq_mapIdx (position : Nat) (items : List Value) :
    ofItems position items = (items.map (none, ·)).mapIdx fun i (entry : Entry) =>
      ofEntry (position + i) entry.1 entry.2 := by
  induction items generalizing position with
  | nil => rfl
  | cons v rest ih => simp [ofItems, ih, Nat.add_assoc, Nat.add_comm 1]

theorem ofPairs_eq_mapIdx (position : Nat) (pairs : List (Value × Value)) :
    ofPairs position pairs =
      (pairs.map fun (key, v) => (key.text?, v)).mapIdx fun i (entry : Entry) =>
        ofEntry (position + i) entry.1 entry.2 := by
  induction pairs generalizing position with
  | nil => rfl
  | cons pair rest ih => simp [ofPairs, ih, Nat.add_assoc, Nat.add_comm 1]

/-- Sources are read from their entries, each in its place. -/
theorem listOf_eq_mapIdx (entries : Entries Value) :
    listOf entries = entries.toEntries.mapIdx fun i entry => ofEntry i entry.1 entry.2 := by
  cases entries with
  | positional items => simpa [listOf, Entries.toEntries] using ofItems_eq_mapIdx 0 items
  | keyed pairs => simpa [listOf, Entries.toEntries] using ofPairs_eq_mapIdx 0 pairs

/-- A source is what an entry describes, at some position. -/
def ReadFrom (entry : Entry) (source : Source) : Prop :=
  ∃ position, source = ofEntry position entry.1 entry.2

/-- Each source is read from the entry in its place. -/
theorem forall₂_readFrom (entries : Entries Value) :
    List.Forall₂ ReadFrom entries.toEntries (listOf entries) := by
  rw [listOf_eq_mapIdx, List.forall₂_iff_get]
  refine ⟨List.length_mapIdx.symm, fun i _ _ => ⟨i, ?_⟩⟩
  simp

/-- An entry has its place among the sources. -/
theorem exists_ofEntry_mem {entries : Entries Value} {key : Option String} {v : Value}
    (h : (key, v) ∈ entries.toEntries) :
    ∃ position, ofEntry position key v ∈ listOf entries := by
  obtain ⟨i, hi, hentry⟩ := List.getElem_of_mem h
  rw [listOf_eq_mapIdx]
  exact ⟨i, List.mem_mapIdx.2 ⟨i, hi, by rw [hentry]⟩⟩

end Source

namespace Selection

variable (c : Connection) (s : Selection)

/-- The known indexes among the sources of a selection. -/
def indexes : List Index := c.known s.indexNames

/-- The layouts of the clauses of a selection. -/
def clauses : List Layout := [
  .text ((if s.distinct then "SELECT DISTINCT " else "SELECT ") ++
    s.modifier.elim "" (· ++ " ")) :: Layout.ofFields c s.fields,
  if s.sources.isEmpty then []
  else .indexes s.indexNames :: .text "FROM " :: Layout.join ", " (Source.layouts c s.sources),
  Layout.ofFilter s.fulltext s.condition.isOmitted (s.condition.layout c (s.indexes c)),
  s.groupBy.elim [] fun columns => .text "GROUP BY " :: Layout.ofColumns c columns,
  Layout.ofWithin c s.within,
  Layout.after "HAVING " (s.having.layout c (s.indexes c)),
  Layout.ofOrder c s.order,
  Layout.ofWindow c s.limit s.offset,
  Layout.ofOptions s.options,
  Layout.ofFacets c s.facets]

theorem layout_eq : s.layout c = .merge s.params ::
    if s.isJoined then [.fault (.unsupportedClause "JOIN")]
    else Layout.joinPresent c.settings.separator (s.clauses c) := by
  cases s
  rw [layout]
  rfl

/-- What is searched stands in the clause for the sources. -/
theorem exists_clause_of_source {source : Source} (h : source ∈ s.sources) :
    ∃ clause ∈ s.clauses c, source.layout c <:+: clause := by
  refine ⟨_, List.mem_of_getElem? (i := 1) rfl, ?_⟩
  rw [if_neg (not_isEmpty_of_mem h)]
  exact (Layout.infix_join ", " (Source.layout_mem_layouts c h)).trans
    (List.infix_cons (List.infix_cons (List.infix_refl _)))

/-- The condition on rows stands in the clause that keeps rows. -/
theorem exists_clause_of_condition :
    ∃ clause ∈ s.clauses c, s.condition.layout c (s.indexes c) <:+: clause :=
  ⟨_, List.mem_of_getElem? (i := 2) rfl,
    Layout.infix_ofFilter (Condition.layout_of_isOmitted c _) s.fulltext⟩

/-- The condition on groups stands in the clause that keeps groups. -/
theorem exists_clause_of_having :
    ∃ clause ∈ s.clauses c, s.having.layout c (s.indexes c) <:+: clause :=
  ⟨_, List.mem_of_getElem? (i := 5) rfl, Layout.infix_after ..⟩

/-- Each clause of a selection is read from what the query has for it. -/
theorem ofQuery_eq (q : Query) : ofQuery q = {
    params := Value.ofNamed q.params
    isJoined := !q.joins.isEmpty
    distinct := q.distinct
    modifier := q.modifier
    fields := q.select.toEntries.map Field.ofEntry
    sources := Source.listOf q.source
    fulltext := q.fulltext
    condition := Condition.ofValue q.condition
    groupBy := match q.groupBy with
      | .columns [] => none
      | .columns items => some (items.map ListedColumn.ofValue)
      | .text s => if s.isEmpty then none else some (ListedColumn.ofText s)
    within := q.within.map fun (name, v) => OrderTerm.ofPair name v
    having := Condition.ofValue q.having
    order := q.orderBy.map fun (name, v) => OrderTerm.ofPair name v
    limit := Value.ofCount q.limit
    offset := Value.ofCount q.offset
    options := q.options
    facets := q.facets.toEntries.map Facet.ofEntry } := by
  cases q
  unfold ofQuery
  rfl

theorem ofQuery_isJoined (q : Query) : (ofQuery q).isJoined = !q.joins.isEmpty := by
  rw [ofQuery_eq]

theorem ofQuery_fields (q : Query) :
    (ofQuery q).fields = q.select.toEntries.map Field.ofEntry := by
  rw [ofQuery_eq]

theorem ofQuery_sources (q : Query) : (ofQuery q).sources = Source.listOf q.source := by
  rw [ofQuery_eq]

theorem ofQuery_condition (q : Query) :
    (ofQuery q).condition = Condition.ofValue q.condition := by
  rw [ofQuery_eq]

theorem ofQuery_groupBy (q : Query) : (ofQuery q).groupBy = match q.groupBy with
    | .columns [] => none
    | .columns items => some (items.map ListedColumn.ofValue)
    | .text s => if s.isEmpty then none else some (ListedColumn.ofText s) := by
  rw [ofQuery_eq]

theorem ofQuery_within (q : Query) :
    (ofQuery q).within = q.within.map fun (name, v) => OrderTerm.ofPair name v := by
  rw [ofQuery_eq]

theorem ofQuery_having (q : Query) : (ofQuery q).having = Condition.ofValue q.having := by
  rw [ofQuery_eq]

theorem ofQuery_order (q : Query) :
    (ofQuery q).order = q.orderBy.map fun (name, v) => OrderTerm.ofPair name v := by
  rw [ofQuery_eq]

theorem ofQuery_options (q : Query) : (ofQuery q).options = q.options := by
  rw [ofQuery_eq]

theorem ofQuery_facets (q : Query) :
    (ofQuery q).facets = q.facets.toEntries.map Facet.ofEntry := by
  rw [ofQuery_eq]

variable {c s}

/-- **A clause of a selection stands in it**, if it can be written at all. -/
theorem infix_layout {clause : Layout} (hs : (s.layout c).Sound) (h : clause ∈ s.clauses c) :
    clause <:+: s.layout c := by
  rw [layout_eq] at hs ⊢
  cases hjoined : s.isJoined with
  | true => simp [hjoined, Piece.isFault] at hs
  | false => exact List.infix_cons (Layout.infix_joinPresent _ h)

end Selection

end SearchSql

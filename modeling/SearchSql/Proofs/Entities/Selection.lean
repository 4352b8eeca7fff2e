import SearchSql.Proofs.Entities.Layout

/-!
# Indexes that are met in a selection

A query meets the indexes among its own sources first, then those of the queries among its
sources, and then those of the queries that its condition on rows, and its condition on groups,
compare with. Each of these is passed with all that is nested in it before the next one.

## Main definitions

* `Condition.reached`, `Query.nested` — the nested queries, in the order in which they are met.
* `Query.reached` — a query with the queries nested in it.

## Main statements

* `Query.indexNames_toEntries` — the names of indexes, read from the entries in another way.
* `Selection.searched_layout` — the clauses in which indexes are met.
* `Layout.reaches_condition`, `Layout.reaches_selection` — conditions and queries.
-/
namespace SearchSql

/-! ## The order of nested queries -/

mutual

/-- The queries that a value stands for: itself, and those nested in it. -/
def Value.reached : Value → List Query
  | .query q => q :: Query.nested q
  | _ => []

/-- The queries whose result a condition compares with. -/
def Condition.reached : Value → List Query
  | .map entries => Condition.reachedEntries entries
  | .list items => Condition.reachedForm items
  | .tuple items => Condition.reachedForm items
  | _ => []

/-- The queries in whose results the columns of a mapping occur. -/
def Condition.reachedEntries : List (Value × Value) → List Query
  | [] => []
  | (_, v) :: rest => Value.reached v ++ Condition.reachedEntries rest

/-- The queries in a condition in operator form. -/
def Condition.reachedForm : List Value → List Query
  | .text token :: operands =>
    match Operator.ofKeyword? (Operator.normalize token) with
    | some .and | some .or | some .not => Condition.reachedOperands operands
    | some .among | some .notAmong => Condition.reachedMembership operands
    | _ => []
  | _ => []

/-- The queries in several conditions. -/
def Condition.reachedOperands : List Value → List Query
  | [] => []
  | v :: rest => Condition.reached v ++ Condition.reachedOperands rest

/-- The query in whose result columns occur; without columns nothing is compared. -/
def Condition.reachedMembership : List Value → List Query
  | column :: v :: _ => if column.isEmptyList then [] else Value.reached v
  | _ => []

/-- The queries in a list of sources. -/
def Source.reachedItems : List Value → List Query
  | [] => []
  | v :: rest => Value.reached v ++ Source.reachedItems rest

/-- The queries in a mapping of sources. -/
def Source.reachedPairs : List (Value × Value) → List Query
  | [] => []
  | (_, v) :: rest => Value.reached v ++ Source.reachedPairs rest

/-- The queries among sources. -/
def Source.reached : Entries Value → List Query
  | .positional items => Source.reachedItems items
  | .keyed pairs => Source.reachedPairs pairs

/-- The queries nested in a query: among its sources, then in the condition on rows, then in the
condition on groups. -/
def Query.nested : Query → List Query
  | { source, condition, having, .. } =>
    Source.reached source ++ (Condition.reached condition ++ Condition.reached having)

end

/-- A query and those nested in it, in the order in which they are met. -/
def Query.reached (q : Query) : List Query := q :: q.nested

theorem Query.nested_eq (q : Query) : q.nested =
    Source.reached q.source ++ (Condition.reached q.condition ++ Condition.reached q.having) := by
  cases q
  rw [nested]

/-! ## Sources -/

namespace Source

/-- A source that a text names is an index if the text names one. -/
theorem ofText_eq_index {key : Option String} {s name : String} {label : Option String}
    (h : Entry.index? (key, .text s) = some (name, label)) : ofText key s = .index name label := by
  simp only [Entry.index?] at h
  split at h
  · cases h
  · rename_i hplain
    cases key with
    | some key =>
      obtain ⟨rfl, rfl⟩ := Prod.mk.inj (Option.some.inj h)
      simp [ofText, hplain]
    | none =>
      cases hlabel : Label.ofSource? s with
      | none | some found =>
        rw [hlabel] at h
        obtain ⟨rfl, rfl⟩ := Prod.mk.inj (Option.some.inj h)
        simp [ofText, splitLabel, hplain, hlabel]

theorem indexName?_ofText (key : Option String) (s : String) :
    (ofText key s).indexName? = (Entry.index? (key, .text s)).map Prod.fst := by
  cases h : Entry.index? (key, .text s) with
  | some found => rw [ofText_eq_index h, indexName?, Option.map_some]
  | none =>
    have hparenthesis : hasParenthesis s = true := by
      by_contra hplain
      simp only [Entry.index?, if_neg hplain] at h
      split at h <;> cases h
    cases key <;> simp [ofText, hparenthesis, indexName?]

theorem indexName?_ofDisplay (key : Option String) (v : Value) :
    (ofDisplay key v).indexName? = none := by
  unfold ofDisplay
  split
  · cases key <;> rfl
  · rfl

/-- A source names the index that its entry names. -/
theorem ReadFrom.indexName?_eq {entry : Entry} {source : Source} (h : ReadFrom entry source) :
    source.indexName? = entry.index?.map Prod.fst := by
  obtain ⟨position, rfl⟩ := h
  obtain ⟨key, v⟩ := entry
  cases v with
  | text s => exact indexName?_ofText key s
  | raw | query => rfl
  | _ => exact (indexName?_ofDisplay key _).trans (by cases key <;> rfl)

theorem filterMap_indexName? {entries : List Entry} {sources : List Source}
    (h : List.Forall₂ ReadFrom entries sources) :
    sources.filterMap indexName? = (entries.filterMap Entry.index?).map Prod.fst := by
  rw [List.map_filterMap]
  induction h with
  | nil => rfl
  | cons hread _ ih =>
    rw [List.filterMap_cons, List.filterMap_cons, hread.indexName?_eq, ih]

end Source

/-- The names of the indexes among the entries of a query. -/
theorem Query.indexNames_toEntries (q : Query) :
    SearchSql.indexNames q.source.toEntries = q.indexNames := by
  rw [SearchSql.indexNames, Query.indexNames, List.map_filterMap]
  congr 1
  funext entry
  obtain ⟨key, v⟩ := entry
  cases v with
  | text s => exact Source.indexName?_ofText key s
  | _ => rfl

/-- The sources of a query name the indexes that its entries name. -/
theorem Selection.indexNames_ofQuery (q : Query) : (ofQuery q).indexNames = q.indexNames := by
  rw [Selection.indexNames, ofQuery_sources]
  exact Source.filterMap_indexName? (Source.forall₂_readFrom q.source)

/-- No index is met where a name is written: the names of all sources stand in front of them. -/
theorem Source.searched_ofText (c : Connection) (key : Option String) (s : String) :
    ((ofText key s).layout c).searched = [] :=
  Layout.searchedNames.gather_source_ofText ..

theorem Source.searched_ofDisplay (c : Connection) (key : Option String) (v : Value) :
    ((ofDisplay key v).layout c).searched = [] :=
  Layout.searchedNames.gather_source_ofDisplay ..

/-! ## Conditions without queries -/

namespace Condition

variable (c : Connection) (indexes : List Index)

theorem searched_showing (v : Value) (condition : Condition) :
    ((showing v condition).layout c indexes).searched =
      (condition.layout c indexes).searched :=
  Layout.searchedNames.gather_showing ..

@[simp] theorem searched_ofBounds (negated : Bool) (operands : List Value) :
    ((ofBounds negated operands).layout c indexes).searched = [] := by
  unfold ofBounds
  split
  · split
    · rfl
    · simp [layout, Piece.searched]
  · rfl

@[simp] theorem searched_ofPatterns (operator : Operator) (negated any : Bool)
    (operands : List Value) :
    ((ofPatterns operator negated any operands).layout c indexes).searched = [] := by
  unfold ofPatterns
  split
  · split
    · rfl
    · simp only
      split
      · cases negated <;> rfl
      all_goals
        rw [layout, Layout.searched_append, Layout.searched_naming, Layout.searched_ofPatterns]
        rfl
  · rfl

@[simp] theorem searched_ofComparison (keyword : String) (operands : List Value) :
    ((ofComparison keyword operands).layout c indexes).searched = [] := by
  unfold ofComparison
  split
  · simp [layout, Piece.searched]
  · rfl

@[simp] theorem searched_amongNothing (negated : Bool) :
    ((amongNothing negated).layout c indexes).searched = [] := by
  cases negated <;> rfl

@[simp] theorem searched_wrongMembership (negated : Bool) :
    ((wrongMembership negated).layout c indexes).searched = [] := by
  rw [wrongMembership, wrongOperands, layout]
  rfl

@[simp] theorem searched_amongValues (negated : Bool) (column : Value) (values : List Value) :
    ((amongValues negated column values).layout c indexes).searched = [] := by
  unfold amongValues
  split
  · rw [layout, Layout.searched_append, Layout.searched_naming, List.append_nil]
    refine Layout.searched_ofMembership c negated _ ?_
    simp only [List.mem_map]
    rintro l ⟨v, -, rfl⟩
    exact Layout.searched_ofChecked ..
  · rw [layout, Layout.searched_append, Layout.searched_naming, List.append_nil]
    refine Layout.searched_ofRows c negated _ ?_
    simp only [List.mem_map]
    rintro l ⟨row, -, rfl⟩
    rw [Layout.searched_enclose, Layout.searched_join, List.flatMap_eq_nil_iff,
      ← List.map_uncurry_zip_eq_zipWith]
    simp only [List.mem_map]
    rintro l ⟨⟨v, column⟩, -, rfl⟩
    exact Layout.searched_ofChecked ..

/-- A comparison with a value that is no query. -/
theorem searched_ofEntry (column : Value) {v : Value} (h : v.reached = []) :
    ((ofEntry column v).layout c indexes).searched = [] := by
  cases v with
  | query q => simp [Value.reached] at h
  | list items | tuple items | set items =>
    cases items <;> simp [ofEntry, layout, Piece.searched]
  | _ => simp [ofEntry, layout, Piece.searched]

/-- Membership in what a value holds that is no query. -/
theorem searched_ofMembers (negated : Bool) (column : Value) {v : Value} (h : v.reached = []) :
    ((ofMembers negated column v).layout c indexes).searched = [] := by
  cases v with
  | query q => simp [Value.reached] at h
  | null => exact searched_wrongMembership ..
  | _ =>
    simp only [ofMembers]
    split
    · exact searched_amongNothing ..
    · exact searched_amongValues ..

end Condition

namespace Selection

variable {c : Connection} {s : Selection}

/-- Indexes are met among the sources and in the two conditions, and nowhere else. -/
theorem searched_layout (hs : (s.layout c).Sound) : (s.layout c).searched =
    s.indexNames ++ (Source.layouts c s.sources).flatMap Layout.searched ++
      ((s.condition.layout c (s.indexes c)).searched ++
        (s.having.layout c (s.indexes c)).searched) := by
  have hplain : ¬ s.isJoined = true := by
    intro hjoined
    rw [layout_eq, if_pos hjoined] at hs
    simp [Piece.isFault] at hs
  have hnames : (if s.sources.isEmpty then []
      else Layout.searchedNames.find (.indexes s.indexNames)) = s.indexNames := by
    split
    · rename_i hempty
      rw [indexNames, List.isEmpty_iff.1 hempty]
      rfl
    · rfl
  have hoptions : (s.options.flatMap fun option =>
      Layout.searchedNames.gather (Layout.ofOption option.2)) = [] :=
    List.flatMap_eq_nil_iff.2 fun option _ => Layout.searched_ofOption option.2
  have hfacets : (s.facets.flatMap fun facet =>
      Layout.searchedNames.gather (Layout.ofFacet c facet)) = [] :=
    List.flatMap_eq_nil_iff.2 fun facet _ => Layout.searched_ofFacet c facet
  have hgather := Layout.searchedNames.gather_selection c s
  rw [if_neg hplain, hnames, hoptions, hfacets, List.append_nil, List.append_nil,
    List.append_assoc] at hgather
  exact hgather

end Selection

/-! ## The clauses of a query -/

namespace Query

variable {c : Connection} {q : Query}

/-- The condition on rows is laid out for the indexes of the query. -/
theorem infix_condition (h : (q.layout c).Sound) :
    Condition.layoutOf c (c.known q.indexNames) q.condition <:+: q.layout c := by
  obtain ⟨clause, hclause, hin⟩ := Selection.exists_clause_of_condition c (.ofQuery q)
  rw [Selection.indexes, Selection.indexNames_ofQuery, Selection.ofQuery_condition] at hin
  exact hin.trans (Selection.infix_layout h hclause)

/-- The condition on groups is laid out for the indexes of the query. -/
theorem infix_having (h : (q.layout c).Sound) :
    Condition.layoutOf c (c.known q.indexNames) q.having <:+: q.layout c := by
  obtain ⟨clause, hclause, hin⟩ := Selection.exists_clause_of_having c (.ofQuery q)
  rw [Selection.indexes, Selection.indexNames_ofQuery, Selection.ofQuery_having] at hin
  exact hin.trans (Selection.infix_layout h hclause)

/-- The clause for the sources, if there are any. -/
theorem infix_sources (h : (q.layout c).Sound) (hne : Source.listOf q.source ≠ []) :
    .indexes q.indexNames :: .text "FROM " ::
      Layout.join ", " (Source.layouts c (Source.listOf q.source)) <:+: q.layout c := by
  have hclause := Selection.infix_layout h (List.mem_of_getElem? (i := 1) rfl)
  rwa [Selection.ofQuery_sources, Selection.indexNames_ofQuery,
    if_neg (mt List.isEmpty_iff.1 hne)] at hclause

/-- One source of the query. -/
theorem infix_source (h : (q.layout c).Sound) {l : Layout}
    (hl : l ∈ Source.layouts c (Source.listOf q.source)) : l <:+: q.layout c := by
  have hne : Source.listOf q.source ≠ [] := by
    rintro hnone
    simp [hnone, Source.layouts] at hl
  exact ((Layout.infix_join ", " hl).trans
    (List.infix_cons (List.infix_cons (List.infix_refl _)))).trans (infix_sources h hne)

end Query

namespace Layout

variable {c : Connection}

/-- A query meets its own indexes, and then what its sources and conditions meet. -/
theorem reaches_of_clauses {q : Query} (h : (q.layout c).Sound)
    (hsources : EachReaches c (Source.reached q.source)
      (Source.layouts c (Source.listOf q.source)))
    (hcondition : Reaches c (Condition.reached q.condition)
      (Condition.layoutOf c (c.known q.indexNames) q.condition))
    (hhaving : Reaches c (Condition.reached q.having)
      (Condition.layoutOf c (c.known q.indexNames) q.having)) :
    Reaches c q.reached (q.layout c) where
  searched_eq := by
    have hlayout := Selection.searched_layout h
    rw [Selection.indexes, Selection.indexNames_ofQuery, Selection.ofQuery_sources,
      Selection.ofQuery_condition, Selection.ofQuery_having, hsources.searched_eq] at hlayout
    rw [Query.layout, hlayout, Query.reached, List.flatMap_cons, Query.nested_eq,
      List.flatMap_append, List.flatMap_append, List.append_assoc, ← hcondition.searched_eq,
      ← hhaving.searched_eq]
    rfl
  infix_layout inner hinner := by
    rw [Query.reached, Query.nested_eq] at hinner
    rcases List.mem_cons.1 hinner with rfl | hnested
    · exact List.infix_refl _
    rcases List.mem_append.1 hnested with hin | hcompared
    · obtain ⟨l, hl, hin⟩ := hsources.exists_infix_layout inner hin
      exact hin.trans (Query.infix_source h hl)
    rcases List.mem_append.1 hcompared with hin | hin
    · exact (hcondition.infix_layout inner hin).trans (Query.infix_condition h)
    · exact (hhaving.infix_layout inner hin).trans (Query.infix_having h)

-- By induction on the value that describes a condition or a query. That the layout can be written
-- passes to each part; it excludes joined indexes and operators with the wrong operands.
mutual

/-- **The queries in a condition are met in their order.** -/
theorem reaches_condition (indexes : List Index) (v : Value)
    (h : (Condition.layoutOf c indexes v).Sound) :
    Reaches c (Condition.reached v) (Condition.layoutOf c indexes v) := by
  match v with
  | .null | .map [] => exact .fixed rfl
  | .text s =>
    rw [Condition.layoutOf, Condition.ofValue]
    split
    · exact .fixed rfl
    · exact .fixed (searched_ofText s)
  | .map (entry :: rest) =>
    rw [Condition.layoutOf, Condition.ofValue, Condition.layout] at h ⊢
    · exact (reaches_entries indexes (entry :: rest) fun l hl =>
        h.of_isInfix (infix_ofRecord hl)).ofRecord
    all_goals simp
  | .list items => exact reaches_form indexes items h
  | .tuple items => exact reaches_form indexes items h
  | .bool _ | .int _ | .float _ | .bytes _ | .buffer _ | .set _ | .raw _ _ | .query _ =>
    exact .fixed ((Condition.searched_showing c indexes _ _).trans (searched_ofText _))

theorem reaches_entries (indexes : List Index) (entries : List (Value × Value))
    (h : ∀ l ∈ Condition.layouts c indexes (Condition.ofEntries entries), l.Sound) :
    EachReaches c (Condition.reachedEntries entries)
      (Condition.layouts c indexes (Condition.ofEntries entries)) := by
  match entries with
  | [] => exact .nil
  | (key, v) :: rest =>
    rw [Condition.ofEntries, Condition.layouts] at h ⊢
    obtain ⟨hentry, hrest⟩ := List.forall_mem_cons.1 h
    have hin := Condition.infix_showing c indexes key (Condition.ofEntry (.text key.display) v)
    have hreaches := reaches_entry indexes (.text key.display) v (hentry.of_isInfix hin)
    exact .cons (hreaches.around hin (Condition.searched_showing ..))
      (reaches_entries indexes rest hrest)

theorem reaches_entry (indexes : List Index) (column v : Value)
    (h : ((Condition.ofEntry column v).layout c indexes).Sound) :
    Reaches c v.reached ((Condition.ofEntry column v).layout c indexes) := by
  match v with
  | .query q =>
    rw [Condition.ofEntry, Condition.layout, ofSelected] at h ⊢
    have hin := (sound_append.1 h).1.of_isInfix (infix_enclose ..)
    exact ((reaches_selection q hin).enclose ..).named _
  | .null | .bool _ | .int _ | .float _ | .text _ | .bytes _ | .buffer _ | .list _ | .tuple _
  | .set _ | .map _ | .raw _ _ => exact .fixed (Condition.searched_ofEntry c indexes column rfl)

theorem reaches_form (indexes : List Index) (items : List Value)
    (h : ((Condition.ofForm items).layout c indexes).Sound) :
    Reaches c (Condition.reachedForm items) ((Condition.ofForm items).layout c indexes) := by
  match items with
  | [] =>
    rw [Condition.ofForm]
    exact .fixed rfl
  | token :: operands =>
    cases token with
    | text token =>
      rw [Condition.ofForm] at h ⊢
      rw [Condition.reachedForm]
      cases hkeyword : Operator.ofKeyword? (Operator.normalize token) with
      | none => exact .fixed (Condition.searched_ofComparison ..)
      | some operator =>
        rw [hkeyword] at h
        cases operator with
        | and | or =>
          simp only [Condition.layout] at h ⊢
          exact (reaches_operands indexes operands fun l hl =>
            h.of_isInfix (infix_connect _ hl)).connect _
        | not => exact reaches_denied indexes operands h
        | among => exact reaches_membership indexes false operands h
        | notAmong => exact reaches_membership indexes true operands h
        | between | notBetween => exact .fixed (Condition.searched_ofBounds ..)
        | like | notLike | orLike | orNotLike => exact .fixed (Condition.searched_ofPatterns ..)
    | _ => simp [Condition.ofForm, Condition.layout, Piece.isFault] at h

theorem reaches_operands (indexes : List Index) (operands : List Value)
    (h : ∀ l ∈ Condition.layouts c indexes (Condition.ofOperands operands), l.Sound) :
    EachReaches c (Condition.reachedOperands operands)
      (Condition.layouts c indexes (Condition.ofOperands operands)) := by
  match operands with
  | [] => exact .nil
  | v :: rest =>
    rw [Condition.ofOperands, Condition.layouts] at h ⊢
    obtain ⟨hv, hrest⟩ := List.forall_mem_cons.1 h
    exact .cons (reaches_condition indexes v hv) (reaches_operands indexes rest hrest)

theorem reaches_denied (indexes : List Index) (operands : List Value)
    (h : ((Condition.ofDenied operands).layout c indexes).Sound) :
    Reaches c (Condition.reachedOperands operands)
      ((Condition.ofDenied operands).layout c indexes) := by
  match operands with
  | [operand] =>
    have hlayout : (Condition.ofDenied [operand]).layout c indexes =
        (Condition.layoutOf c indexes operand).negate := rfl
    rw [hlayout] at h ⊢
    have hin := infix_negate (Condition.layoutOf c indexes operand)
    rw [Condition.reachedOperands, Condition.reachedOperands, List.append_nil]
    exact (reaches_condition indexes operand (h.of_isInfix hin)).around hin (searched_negate _)
  | [] | _ :: _ :: _ =>
    simp [Condition.ofDenied, Condition.wrongOperands, Condition.layout, Piece.isFault] at h

theorem reaches_membership (indexes : List Index) (negated : Bool) (operands : List Value)
    (h : ((Condition.ofMembership negated operands).layout c indexes).Sound) :
    Reaches c (Condition.reachedMembership operands)
      ((Condition.ofMembership negated operands).layout c indexes) := by
  match operands with
  | column :: v :: rest =>
    rw [Condition.ofMembership] at h ⊢
    rw [Condition.reachedMembership]
    split at h
    · simp [Condition.wrongMembership, Condition.wrongOperands, Condition.layout,
        Piece.isFault] at h
    · rename_i hnull
      rw [if_neg hnull]
      exact reaches_members indexes negated column v h
  | [] | [_] => exact .fixed (Condition.searched_wrongMembership ..)

theorem reaches_members (indexes : List Index) (negated : Bool) (column v : Value)
    (h : ((Condition.ofMembers negated column v).layout c indexes).Sound) :
    Reaches c (if column.isEmptyList then [] else v.reached)
      ((Condition.ofMembers negated column v).layout c indexes) := by
  match v with
  | .query q =>
    rw [Condition.ofMembers] at h ⊢
    split
    · exact .fixed (Condition.searched_amongNothing ..)
    · rename_i hempty
      rw [if_neg hempty, Condition.layout, ofSelected] at h
      rw [Condition.layout, ofSelected]
      have hin := (sound_append.1 h).1.of_isInfix (infix_enclose ..)
      exact ((reaches_selection q hin).enclose ..).named _
  | .null | .bool _ | .int _ | .float _ | .text _ | .bytes _ | .buffer _ | .list _ | .tuple _
  | .set _ | .map _ | .raw _ _ =>
    split <;> exact .fixed (Condition.searched_ofMembers c indexes negated column rfl)

theorem reaches_source (position : Nat) (key : Option String) (v : Value)
    (h : ((Source.ofEntry position key v).layout c).Sound) :
    Reaches c v.reached ((Source.ofEntry position key v).layout c) := by
  match v with
  | .query q =>
    rw [Source.ofEntry, Source.layout] at h ⊢
    exact (reaches_selection q (h.of_isInfix (infix_enclose ..))).enclose ..
  | .raw sql params => exact .fixed (searchedNames.gather_ofRawLabeled ..)
  | .text s => exact .fixed (Source.searched_ofText c key s)
  | .null | .bool _ | .int _ | .float _ | .bytes _ | .buffer _ | .list _ | .tuple _ | .set _
  | .map _ => exact .fixed (Source.searched_ofDisplay c key _)

theorem reaches_sourceItems (position : Nat) (items : List Value)
    (h : ∀ l ∈ Source.layouts c (Source.ofItems position items), l.Sound) :
    EachReaches c (Source.reachedItems items)
      (Source.layouts c (Source.ofItems position items)) := by
  match items with
  | [] => exact .nil
  | v :: rest =>
    rw [Source.ofItems, Source.layouts] at h ⊢
    obtain ⟨hv, hrest⟩ := List.forall_mem_cons.1 h
    exact .cons (reaches_source position none v hv) (reaches_sourceItems (position + 1) rest hrest)

theorem reaches_sourcePairs (position : Nat) (pairs : List (Value × Value))
    (h : ∀ l ∈ Source.layouts c (Source.ofPairs position pairs), l.Sound) :
    EachReaches c (Source.reachedPairs pairs)
      (Source.layouts c (Source.ofPairs position pairs)) := by
  match pairs with
  | [] => exact .nil
  | (key, v) :: rest =>
    rw [Source.ofPairs, Source.layouts] at h ⊢
    obtain ⟨hv, hrest⟩ := List.forall_mem_cons.1 h
    exact .cons (reaches_source position key.text? v hv)
      (reaches_sourcePairs (position + 1) rest hrest)

theorem reaches_sources (entries : Entries Value)
    (h : ∀ l ∈ Source.layouts c (Source.listOf entries), l.Sound) :
    EachReaches c (Source.reached entries) (Source.layouts c (Source.listOf entries)) := by
  match entries with
  | .positional items => exact reaches_sourceItems 0 items h
  | .keyed pairs => exact reaches_sourcePairs 0 pairs h

/-- **A query meets its own indexes, and then those of the queries nested in it**, in order. -/
theorem reaches_selection (q : Clauses Value) (h : ((Selection.ofQuery q).layout c).Sound) :
    Reaches c (q :: Query.nested q) ((Selection.ofQuery q).layout c) := by
  match q with
  | { select, distinct, modifier, source, joins, fulltext, condition, groupBy, within, having,
      orderBy, limit, offset, options, facets, showMeta, params } =>
    exact reaches_of_clauses h
      (reaches_sources source fun l hl => h.of_isInfix (Query.infix_source h hl))
      (reaches_condition _ condition (h.of_isInfix (Query.infix_condition h)))
      (reaches_condition _ having (h.of_isInfix (Query.infix_having h)))

end

end Layout

end SearchSql

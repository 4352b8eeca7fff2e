import SearchSql.Proofs.Condition.Malformed
import SearchSql.Proofs.Layout.Numbers

/-!
# Queries that are bound

A query among the values of a request is compiled, or the request is rejected, at every place
where it is checked for. At the other places it is bound like any value: as the operand of an
operator without a form of its own, as a member of a value, as a pattern that is not escaped and
as an option. Nothing else is bound to a generated name that is a query.

## Main definitions

* `Request.visits?` — the places in the statement for a request.

## Main statements

* `Layout.incidents_statement` — what is written for a request tells what its visits come to.
* `Connection.binds_query_iff` — when a query is bound.
* `Connection.not_binds_no_query` — a query that is bound.
-/
namespace SearchSql

namespace Layout

/-- What is bound that is a query is what is found to be bound. -/
theorem query_mem_binds_iff {q : Query} {l : Layout} :
    .query q ∈ l.binds ↔ .bound q ∈ incidents.gather l := by
  induction l with
  | nil => simp [binds]
  | cons piece l ih =>
    rw [Finder.gather_cons, List.mem_append, ← ih]
    cases piece with
    | bind v =>
      have hvalue : Value.query q = v ↔ .bound q ∈ incidents.find (.bind v) := by
        cases v <;> simp [incidents, Piece.incidents, Value.query?]
      rw [← hvalue]
      exact List.mem_cons
    | fault f =>
      have hfault : .bound q ∉ incidents.find (.fault f) := by
        cases f <;> simp [incidents, Piece.incidents]
      exact (or_iff_right hfault).symm
    | text | merge | indexes => exact (or_iff_right List.not_mem_nil).symm

end Layout

/-- What visits find to be bound is bound at one of their places. -/
theorem Visit.bound_mem_incidentsOf_iff (c : Connection) {q : Query} {visits : List Visit} :
    .bound q ∈ incidentsOf c visits ↔ ∃ visit ∈ visits, q ∈ visit.bound c := by
  simp [incidentsOf, incidents]

/-! ## The places in a statement -/

namespace Request

/-- The places of the values of some columns. -/
def cellVisits (names : List String) (cells : List (Value × Value)) : List Visit :=
  cells.map fun (column, v) => .value names column v

/-- The places in a row of a batch. -/
def rowVisits (names : List String) (columns : List Value) (row : Value) : List Visit :=
  cellVisits names (columns.zip (row.elements?.getD []))

/-- The places in the statement for a request, if that is for a query, a condition or a change. -/
def visits? : Request → Option (List Visit)
  | .build query _ => (Query.ofValue query).toOption.map Query.visits
  | .condition tree names _ => some (Condition.visits (Condition.scope names) tree)
  | .store _ target cells _ => some (cellVisits target.text?.toList (cells.mapping?.getD []))
  | .batch _ target names rows _ =>
    some ((rows.elements?.getD []).flatMap
      (rowVisits target.text?.toList (names.elements?.getD [])))
  | .update target cells tree _ options =>
    some (cellVisits target.text?.toList (cells.mapping?.getD []) ++
      Condition.visits target.text?.toList tree ++
      (options.mapping?.getD []).flatMap fun (_, v) => v.optionVisits)
  | .delete target tree _ => some (Condition.visits target.text?.toList tree)
  | .truncate _ => some []
  | _ => none

end Request

namespace Layout

variable (c : Connection)

theorem incidents_ofCells (names : List String) (cells : List (Value × Value)) :
    incidents.gather (ofCells (c.known names) cells) =
      Visit.incidentsOf c (Request.cellVisits names cells) := by
  simp [ofCells, ofCell, Request.cellVisits, List.flatMap_map, incidents_ofValue]

theorem incidents_ofBatchRow (how : Store) (target : Value) (columns : List Value) {row : Value}
    (h : (ofBatchRow c how target columns row).Sound) :
    incidents.gather (ofBatchRow c how target columns row) =
      Visit.incidentsOf c (Request.rowVisits target.text?.toList columns row) := by
  rw [ofBatchRow] at h ⊢
  rw [Request.rowVisits]
  generalize row.elements? = found at h ⊢
  cases found with
  | none => simp [Piece.isFault] at h
  | some values =>
    by_cases hwidth : values.length = columns.length
    · simp only [if_pos hwidth]
      rw [Finder.gather_append_naming]
      exact incidents_ofCells c target.text?.toList (columns.zip values)
    · simp [hwidth, Piece.isFault] at h

theorem incidents_ofBatch (how : Store) (target columns rows : Value)
    (h : (ofBatch c how target columns rows).Sound) :
    incidents.gather (ofBatch c how target columns rows) =
      Visit.incidentsOf c ((rows.elements?.getD []).flatMap
        (Request.rowVisits target.text?.toList (columns.elements?.getD []))) := by
  rw [ofBatch] at h ⊢
  generalize columns.elements? = listed at h ⊢
  generalize rows.elements? = given at h ⊢
  cases listed with
  | none => simp [Piece.isFault] at h
  | some columns =>
    cases given with
    | none => simp [Piece.isFault] at h
    | some rows =>
      obtain ⟨-, hjoined⟩ := sound_cons.1 (sound_append.1 h).1
      simp only [Finder.gather_append_naming, Finder.gather_cons, Finder.find_text,
        Finder.gather_join, List.flatMap_map, List.nil_append, Option.getD_some,
        Visit.incidentsOf_flatMap]
      refine List.flatMap_congr fun row hrow => ?_
      have hsound := hjoined.of_isInfix (infix_join ", " (List.mem_map_of_mem hrow))
      exact incidents_ofBatchRow c how target columns hsound

theorem incidents_ofRowCondition (target tree : Value) :
    incidents.gather (ofRowCondition c target tree) =
      Visit.incidentsOf c (Condition.visits target.text?.toList tree) := by
  rw [ofRowCondition, Finder.gather_after]
  exact incidents_condition c target.text?.toList tree

theorem incidents_ofOptionMapping (options : Value) :
    incidents.gather (ofOptionMapping options) = Visit.incidentsOf c
      ((options.mapping?.getD []).flatMap fun (_, v) => v.optionVisits) := by
  have hmap (pairs : Mapping) : incidents.gather
      (ofOptions (pairs.map fun (name, v) => (name.display, v))) =
        Visit.incidentsOf c (pairs.flatMap fun (_, v) => v.optionVisits) := by
    simp [List.flatMap_map, incidents_ofOption c]
  cases options with
  | map pairs =>
    cases pairs with
    | nil => rfl
    | cons pair rest =>
      change incidents.gather (ofOptions _ ++ naming _) = _
      rw [Finder.gather_append_naming]
      exact hmap (pair :: rest)
  | _ => simp [ofOptionMapping, Value.mapping?, apply_ite incidents.gather]

theorem incidents_ofShowMeta (v : Value) : incidents.gather (ofShowMeta c v) = [] := by
  have hpattern (s : String) :
      incidents.gather (ofPattern (Like.tableValue c.settings.likeEscape) (.text s)) = [] := by
    refine (incidents_ofPattern c none (.text s)).trans ?_
    rw [Visit.incidents, Visit.bound]
    split <;> rfl
  unfold ofShowMeta
  split
  · rfl
  · split
    · rfl
    · rfl
    · rw [Finder.gather_cons, Finder.find_text, List.nil_append]
      exact incidents.gather_ofShown _ hpattern

/-- **What is written for a request tells what its visits come to**, in their order, where nothing
in it is wrong. -/
theorem incidents_statement {r : Request} {visits : List Visit} (hv : r.visits? = some visits)
    {params : Value} {l : Layout} (hs : c.statement? r = some (params, l)) (hl : l.Sound) :
    incidents.gather l = Visit.incidentsOf c visits := by
  cases r with
  | build query given =>
    cases hquery : Query.ofValue query with
    | error f => simp [Request.visits?, hquery, Except.toOption] at hv
    | ok q =>
      simp only [Request.visits?, Connection.statement?, hquery, Except.toOption,
        Option.map_some, Option.some.injEq, Prod.mk.injEq] at hv hs
      obtain ⟨-, rfl⟩ := hs
      rw [← hv, Connection.queryLayout, Finder.gather_append, Finder.gather_after,
        incidents_ofShowMeta, List.append_nil]
      exact incidents_selection c q
  | condition tree names given =>
    obtain ⟨-, rfl⟩ := Prod.mk.inj (Option.some.inj hs)
    obtain rfl := Option.some.inj hv
    rw [Connection.conditionLayout] at hl ⊢
    rw [Condition.scope]
    cases hnames : names.elements? with
    | none => simp [hnames, Piece.isFault] at hl
    | some found => exact incidents_condition c _ tree
  | store how target cells given =>
    obtain ⟨-, rfl⟩ := Prod.mk.inj (Option.some.inj hs)
    obtain rfl := Option.some.inj hv
    cases cells with
    | map cells =>
      rw [ofStore, Finder.gather_append_naming, Finder.gather_cons, Finder.find_text,
        List.nil_append]
      exact incidents_ofCells c target.text?.toList cells
    | _ => rfl
  | batch how target columns rows given =>
    obtain ⟨-, rfl⟩ := Prod.mk.inj (Option.some.inj hs)
    obtain rfl := Option.some.inj hv
    exact incidents_ofBatch c how target columns rows hl
  | update target cells tree given options =>
    obtain ⟨-, rfl⟩ := Prod.mk.inj (Option.some.inj hs)
    obtain rfl := Option.some.inj hv
    cases cells with
    | map cells =>
      have hassigned (cell : Value × Value) :
          incidents.gather (ofCell (c.knownIndex target) cell.1 cell.2) =
            (Visit.value target.text?.toList cell.1 cell.2).incidents c := by
        rw [ofCell, Finder.gather_naming_append]
        exact incidents_ofValue c target.text?.toList cell.1 cell.2
      have hcells : Value.mapping? (.map cells) = some cells := rfl
      rw [ofUpdate, Finder.gather_joinPresent, hcells, Visit.incidentsOf_append,
        Visit.incidentsOf_append, ← incidents_ofRowCondition, ← incidents_ofOptionMapping]
      simp [Request.cellVisits, List.flatMap_map, hassigned]
    | _ => simp [ofUpdate, Piece.isFault] at hl
  | delete target tree given =>
    obtain ⟨-, rfl⟩ := Prod.mk.inj (Option.some.inj hs)
    obtain rfl := Option.some.inj hv
    simp [ofDelete, incidents_ofRowCondition]
  | truncate target =>
    obtain ⟨-, rfl⟩ := Prod.mk.inj (Option.some.inj hs)
    obtain rfl := Option.some.inj hv
    simp [ofTruncate]
  | _ => cases hv

end Layout

namespace Connection

variable (c : Connection)

/-- **When a query is bound.** In a statement that is answered nothing is wrong at a place that is
visited. A query is bound to a generated name just when it is an operand, a member of a value, an
option or a pattern that is not escaped at one of these places. Each value among the parameters of
the statement is bound to a generated name or comes with a name that was supplied; and what is
bound stays among them if no name that was supplied is a numbered one. -/
theorem binds_query_iff {r : Request} {visits : List Visit} (hv : r.visits? = some visits)
    {params : Value} {l : Layout} (hs : c.statement? r = some (params, l)) {k : Compiled}
    (hk : c.compiled? r = some k) :
    (∀ visit ∈ visits, visit.flaw? = none) ∧
      (∀ q, .query q ∈ l.binds ↔ ∃ visit ∈ visits, q ∈ visit.bound c) ∧
      (∀ key v, (key, v) ∈ k.params →
        v ∈ l.binds ∨ ∃ given ∈ (Layout.ofCaller params ++ l).merges, v ∈ given.map Prod.snd) ∧
      ((Layout.ofCaller params ++ l).Unnumbered c.settings.paramStem → ∀ v ∈ l.binds,
        ∃ n, k.params.named? (Params.numbered c.settings.paramStem n) = some v) := by
  obtain ⟨hsound, -, hparams, -⟩ := (c.compiled?_eq_some_iff hs).1 hk
  have hl : l.Sound := (Layout.sound_append.1 hsound).2
  have hgather := Layout.incidents_statement c hv hs hl
  have hfault : l.fault? = none := Layout.fault?_eq_none_iff.2 hl
  have hcaller : (Layout.ofCaller params).binds = [] := by
    rw [Layout.ofCaller]
    split
    · cases Params.pairsOf params <;> rfl
    · rfl
  have hbinds : (Layout.ofCaller params ++ l).binds = l.binds := by
    rw [Layout.binds_append, hcaller, List.nil_append]
  refine ⟨?_, ?_, ?_, ?_⟩
  · have hfirst := Layout.fault?_eq_findSome? (l := l) (by simp [hfault])
    rw [hfault, hgather, Visit.findSome?_incidentsOf] at hfirst
    exact List.findSome?_eq_none_iff.1 hfirst.symm
  · intro q
    rw [Layout.query_mem_binds_iff, hgather, Visit.bound_mem_incidentsOf_iff]
  · intro key v hmem
    rw [hparams] at hmem
    rcases Layout.mem_entries_paramsAfter hmem with hempty | hbound | hgiven
    · cases hempty
    · exact Or.inl (hbinds ▸ hbound)
    · exact Or.inr hgiven
  · intro hunnumbered v hv
    rw [hparams]
    exact Layout.exists_named?_of_mem_binds hunnumbered (Params.wellNumbered_empty _)
      (hbinds.symm ▸ hv)

/-- The copies that are on loan. -/
def onLoan : Query := { Clauses.empty with source := .positional [.text "loans"] }

/-- A condition whose operand is a query. -/
def asOperand : Request :=
  .condition (.list [.text "=", .text "id", .query onLoan]) (.list []) .null

theorem binds_query_iff_asOperand :
    ∃ visits l k, asOperand.visits? = some visits ∧
      standard.statement? asOperand = some (.null, l) ∧ standard.compiled? asOperand = some k ∧
      (∀ visit ∈ visits, visit.flaw? = none) ∧
      (∀ q, .query q ∈ l.binds ↔ ∃ visit ∈ visits, q ∈ visit.bound standard) ∧
      (∀ key v, (key, v) ∈ k.params →
        v ∈ l.binds ∨ ∃ given ∈ (Layout.ofCaller .null ++ l).merges, v ∈ given.map Prod.snd) ∧
      ((Layout.ofCaller .null ++ l).Unnumbered ":qp" → ∀ v ∈ l.binds,
        ∃ n, k.params.named? (Params.numbered ":qp" n) = some v) :=
  ⟨_, _, _, rfl, rfl, rfl, standard.binds_query_iff (r := asOperand) rfl rfl rfl⟩

/-- A query is bound to a generated name, where no name is supplied. -/
theorem not_binds_no_query :
    ∃ l k q, standard.statement? asOperand = some (.null, l) ∧ l.merges = [] ∧
      standard.compiled? asOperand = some k ∧ k.sql = "id = :qp0" ∧
      (.text ":qp0", .query q) ∈ k.params :=
  ⟨_, _, onLoan, rfl, rfl, rfl, rfl, List.mem_singleton_self _⟩

end Connection

end SearchSql

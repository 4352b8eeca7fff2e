import SearchSql.Proofs.Fragment.Condition
import SearchSql.Proofs.Subquery.Nesting

/-!
# Raw fragments keep their parameters

Every place of a statement that takes a raw fragment takes its parameters with it, in nested
queries too: they are bound when the statement is sent. Only a fragment that is a condition
itself, the whole of it or an operand of a connective or a denial, is read as a bare text. Its
parameters are lost, and the placeholders in its text stay unbound.

## Main definitions

* `Fragment.InQuery`, `Fragment.InRequest` — a fragment in a clause of a query, and in what a
  request asks for.

## Main statements

* `Fragment.params_bound_of_inRequest` — where parameters are bound, and where they are lost.
* `Fragment.not_params_bound_of_condition` — a placeholder that stays unbound.
-/
namespace SearchSql.Fragment

open Condition

variable {f : Fragment} {c : Connection}

/-- A fragment stands in a clause of a query. -/
inductive InQuery (f : Fragment) (c : Connection) (q : Query) : Prop where
  /-- It is a field. -/
  | select {key : Option String} (h : (key, f.value) ∈ q.select.toEntries)
  /-- It is searched. -/
  | source {key : Option String} (h : (key, f.value) ∈ q.source.toEntries)
  /-- It is the full-text query. -/
  | fulltext (h : q.fulltext = f.value)
  /-- Rows are compared with it. -/
  | condition (h : f.InCondition ((Selection.ofQuery q).indexes c) q.condition)
  /-- Rows are grouped by it. -/
  | groupBy {items : List Value} (hitems : q.groupBy = .columns items) (h : f.value ∈ items)
  /-- It is a direction within groups. -/
  | within {name : String} (h : (name, f.value) ∈ q.within)
  /-- Groups are compared with it. -/
  | having (h : f.InCondition ((Selection.ofQuery q).indexes c) q.having)
  /-- It is a direction of the result. -/
  | orderBy {name : String} (h : (name, f.value) ∈ q.orderBy)
  /-- It stands in the value of an option. -/
  | option {name : String} {v : Value} (hv : (name, v) ∈ q.options) (h : f.InOption v)
  /-- It stands in a facet. -/
  | facet {entry : Entry} (hentry : entry ∈ q.facets.toEntries) (h : f.InFacet entry)

/-- A fragment stands in what a request asks for, other than as a condition. -/
inductive InRequest (f : Fragment) (c : Connection) : Request → Prop where
  /-- It stands in a query, which may be nested. -/
  | query {r : Request} {q : Query} (hq : r.Holds q) (h : f.InQuery c q) : InRequest f c r
  /-- The statistics are shown whose names match it. -/
  | showMeta {query params : Value} {q : Query} (hread : Query.ofValue query = .ok q)
    (h : q.showMeta = f.value) : InRequest f c (.build query params)
  /-- It is compared with in a condition. -/
  | condition {tree names params : Value} {items : List Value}
    (hnames : names.elements? = some items)
    (h : f.InCondition (c.known (items.filterMap Value.text?)) tree) :
    InRequest f c (.condition tree names params)
  /-- It is stored. -/
  | store {how : Store} {target params column v : Value} {cells : Mapping}
    (hcell : (column, v) ∈ cells)
    (h : f.InValue (Layout.columnOf (c.knownIndex target) column) v) :
    InRequest f c (.store how target (.map cells) params)
  /-- It is stored with one of several rows. -/
  | batch {how : Store} {target columns rows params row column v : Value}
    {names items values : List Value} (hnames : columns.elements? = some names)
    (hitems : rows.elements? = some items) (hrow : row ∈ items)
    (hvalues : row.elements? = some values) (hcell : (column, v) ∈ names.zip values)
    (h : f.InValue (Layout.columnOf (c.knownIndex target) column) v) :
    InRequest f c (.batch how target columns rows params)
  /-- It is assigned. -/
  | assigned {target tree params options column v : Value} {cells : Mapping}
    (hcell : (column, v) ∈ cells)
    (h : f.InValue (Layout.columnOf (c.knownIndex target) column) v) :
    InRequest f c (.update target (.map cells) tree params options)
  /-- The rows that are changed are compared with it. -/
  | updated {target cells tree params options : Value}
    (h : f.InCondition (c.knownIndex target) tree) :
    InRequest f c (.update target cells tree params options)
  /-- It stands in an option of a change. -/
  | option {target cells tree params name v : Value} {options : Mapping}
    (hv : (name, v) ∈ options) (h : f.InOption v) :
    InRequest f c (.update target cells tree params (.map options))
  /-- The rows that are deleted are compared with it. -/
  | deleted {target tree params : Value} (h : f.InCondition (c.knownIndex target) tree) :
    InRequest f c (.delete target tree params)

/-! ## Queries -/

theorem boundIn_ofFilter {isOmitted : Bool} {l : Layout} :
    f.BoundIn (Layout.ofFilter f.value isOmitted l) := by
  rw [Layout.ofFilter]
  · split
    · exact f.boundIn_ofFulltext.of_isInfix (Layout.infix_after ..)
    · have hfirst : f.BoundIn (Layout.connect "AND" [Layout.ofFulltext f.value, l]) :=
        f.boundIn_ofFulltext.of_isInfix (Layout.infix_connect "AND" (List.mem_cons_self ..))
      exact hfirst.of_isInfix (Layout.infix_after ..)
  · nofun

/-- A fragment in a query stands in one of its clauses. -/
theorem InQuery.exists_clause {q : Query} (h : f.InQuery c q) :
    ∃ clause ∈ (Selection.ofQuery q).clauses c, f.BoundIn clause := by
  have hclause (i : Nat) (l : Layout) (hl : ((Selection.ofQuery q).clauses c)[i]? = some l)
      (hbound : f.BoundIn l) : ∃ clause ∈ (Selection.ofQuery q).clauses c, f.BoundIn clause :=
    ⟨l, List.mem_of_getElem? hl, hbound⟩
  cases h with
  | @source key h =>
    obtain ⟨position, hmem⟩ := Source.exists_ofEntry_mem h
    rw [← Selection.ofQuery_sources] at hmem
    obtain ⟨clause, hmem, hin⟩ := Selection.exists_clause_of_source c _ hmem
    exact ⟨clause, hmem, (f.boundIn_ofRawLabeled c " " (key.bind nonempty?)).of_isInfix hin⟩
  | condition h =>
    obtain ⟨clause, hmem, hin⟩ := Selection.exists_clause_of_condition c (Selection.ofQuery q)
    rw [Selection.ofQuery_condition] at hin
    exact ⟨clause, hmem, (h.boundIn c).of_isInfix hin⟩
  | having h =>
    obtain ⟨clause, hmem, hin⟩ := Selection.exists_clause_of_having c (Selection.ofQuery q)
    rw [Selection.ofQuery_having] at hin
    exact ⟨clause, hmem, (h.boundIn c).of_isInfix hin⟩
  | select h =>
    cases q
    exact hclause 0 _ rfl ((boundIn_ofFields c h).cons _)
  | fulltext h =>
    cases q
    obtain rfl := h
    exact hclause 2 _ rfl boundIn_ofFilter
  | @groupBy items hitems h =>
    cases q
    obtain rfl := hitems
    refine hclause 3 _ rfl ?_
    cases items with
    | nil => cases h
    | cons => exact (boundIn_ofColumns c h).cons _
  | within h =>
    cases q
    have hterm := List.mem_map_of_mem
      (f := fun entry : String × Value => OrderTerm.ofPair entry.1 entry.2) h
    exact hclause 4 _ rfl (boundIn_ofOrdering c hterm _ _)
  | orderBy h =>
    cases q
    have hterm := List.mem_map_of_mem
      (f := fun entry : String × Value => OrderTerm.ofPair entry.1 entry.2) h
    exact hclause 6 _ rfl (boundIn_ofOrdering c hterm _ _)
  | option hv h =>
    cases q
    exact hclause 8 _ rfl (boundIn_ofOptions hv h)
  | facet hentry h =>
    cases q
    have hfacet := List.mem_map_of_mem (f := Layout.ofFacet c)
      (List.mem_map_of_mem (f := Facet.ofEntry) hentry)
    exact hclause 9 _ rfl ((h.boundIn c).join _ hfacet)

theorem InQuery.boundIn {q : Query} (h : f.InQuery c q) (hs : (q.layout c).Sound) :
    f.BoundIn (q.layout c) := by
  obtain ⟨clause, hclause, hbound⟩ := h.exists_clause
  exact hbound.of_isInfix (Selection.infix_layout hs hclause)

/-! ## Requests -/

theorem boundIn_ofShowMeta (f : Fragment) (c : Connection) :
    f.BoundIn (Layout.ofShowMeta c f.value) :=
  f.boundIn_ofRaw.cons _

theorem InValue.boundIn_ofCell {indexes : List Index} {column v : Value}
    (h : f.InValue (Layout.columnOf indexes column) v) :
    f.BoundIn (Layout.ofCell indexes column v) :=
  h.boundIn.of_isInfix (List.suffix_append ..).isInfix

theorem boundIn_ofCells {indexes : List Index} {cells : Mapping} {column v : Value}
    (hcell : (column, v) ∈ cells) (h : f.InValue (Layout.columnOf indexes column) v) :
    f.BoundIn (Layout.ofCells indexes cells) := by
  have hmem := List.mem_map_of_mem
    (f := fun cell : Value × Value => Layout.ofCell indexes cell.1 cell.2) hcell
  exact (h.boundIn_ofCell.join ", " hmem).enclose "(" ")"

/-- A row of a batch has a value for each column, where the batch can be written at all. -/
theorem boundIn_ofBatch {how : Store} {target columns rows row column v : Value}
    {names items values : List Value} (hnames : columns.elements? = some names)
    (hitems : rows.elements? = some items) (hrow : row ∈ items)
    (hvalues : row.elements? = some values) (hcell : (column, v) ∈ names.zip values)
    (h : f.InValue (Layout.columnOf (c.knownIndex target) column) v)
    (hs : (Layout.ofBatch c how target columns rows).Sound) :
    f.BoundIn (Layout.ofBatch c how target columns rows) := by
  simp only [Layout.ofBatch, hnames, hitems] at hs ⊢
  have hmem := List.mem_map_of_mem (f := Layout.ofBatchRow c how target names) hrow
  have hin := Layout.infix_join ", " hmem
  have hrowSound := (Layout.sound_cons.1 (Layout.sound_append.1 hs).1).2.of_isInfix hin
  refine ((BoundIn.of_isInfix ?_ hin).cons _).of_isInfix (List.prefix_append ..).isInfix
  simp only [Layout.ofBatchRow, hvalues] at hrowSound ⊢
  by_cases hwidth : values.length = names.length
  · rw [if_pos hwidth]
    exact (boundIn_ofCells hcell h).of_isInfix (List.prefix_append ..).isInfix
  · simp [hwidth, Piece.isFault] at hrowSound

theorem boundIn_ofOptionMapping {options : Mapping} {name v : Value} (hv : (name, v) ∈ options)
    (h : f.InOption v) : f.BoundIn (Layout.ofOptionMapping (.map options)) := by
  have hgiven : (Value.map options).truthy = true := by
    cases options with
    | nil => cases hv
    | cons => rfl
  have hoption := List.mem_map_of_mem
    (f := fun option : Value × Value => (option.1.display, option.2)) hv
  rw [Layout.ofOptionMapping, hgiven]
  exact (boundIn_ofOptions hoption h).of_isInfix (List.prefix_append ..).isInfix

/-- **A fragment in a request stands in what is written**, with its parameters. -/
theorem InRequest.boundIn {r : Request} (h : f.InRequest c r) {params : Value} {l : Layout}
    (hl : c.statement? r = some (params, l)) (hs : l.Sound) : f.BoundIn l := by
  cases h with
  | @query _ q hq h =>
    have hin := hq.infix_statement hl hs
    exact (h.boundIn (hs.of_isInfix hin)).of_isInfix hin
  | @showMeta query _ q hread h =>
    simp only [Connection.statement?, hread, Except.toOption, Option.map_some,
      Option.some.injEq, Prod.mk.injEq] at hl
    obtain ⟨rfl, rfl⟩ := hl
    have hmeta := (f.boundIn_ofShowMeta c).of_isInfix
      (Layout.infix_after c.settings.querySeparator _)
    rw [Connection.queryLayout, h]
    exact hmeta.of_isInfix (List.suffix_append ..).isInfix
  | @condition tree names _ items hnames h =>
    obtain rfl := (Prod.mk.inj (Option.some.inj hl)).2
    simp only [Connection.conditionLayout, hnames]
    exact h.boundIn c
  | store hcell h =>
    obtain rfl := (Prod.mk.inj (Option.some.inj hl)).2
    exact ((boundIn_ofCells hcell h).cons _).of_isInfix (List.prefix_append ..).isInfix
  | batch hnames hitems hrow hvalues hcell h =>
    obtain rfl := (Prod.mk.inj (Option.some.inj hl)).2
    exact boundIn_ofBatch hnames hitems hrow hvalues hcell h hs
  | @assigned target tree _ options column v cells hcell h =>
    obtain rfl := (Prod.mk.inj (Option.some.inj hl)).2
    have hmem := List.mem_map_of_mem (f := fun cell : Value × Value =>
      Piece.text (c.quoteValue cell.1 ++ "=") ::
        Layout.ofCell (c.knownIndex target) cell.1 cell.2) hcell
    have hassigned := ((h.boundIn_ofCell.cons _).join ", " hmem).cons
      (.text ("UPDATE " ++ c.quoteValue target ++ " SET "))
    have hhead := hassigned.of_isInfix
      (List.prefix_append _ (Layout.naming [target])).isInfix
    exact hhead.of_isInfix (Layout.infix_joinPresent " " (List.mem_cons_self ..))
  | @updated target cells tree _ options h =>
    obtain rfl := (Prod.mk.inj (Option.some.inj hl)).2
    exact (h.boundIn c).of_isInfix (infix_ofUpdate target cells options hs)
  | @option target cells tree _ name v options hv h =>
    obtain rfl := (Prod.mk.inj (Option.some.inj hl)).2
    have hclause := boundIn_ofOptionMapping hv h
    cases cells with
    | map cells => exact hclause.of_isInfix (Layout.infix_joinPresent " " (by simp))
    | _ => simp [Layout.ofUpdate, Piece.isFault] at hs
  | @deleted target tree _ h =>
    obtain rfl := (Prod.mk.inj (Option.some.inj hl)).2
    exact (h.boundIn c).of_isInfix (infix_ofDelete target)

theorem InRequest.exists_statement {r : Request} (h : f.InRequest c r) {k : Compiled}
    (hk : c.compiled? r = some k) : ∃ params l, c.statement? r = some (params, l) := by
  cases hs : c.statement? r with
  | some found => exact ⟨found.1, found.2, rfl⟩
  | none =>
    obtain ⟨target, text, statistics, params, rfl⟩ := c.exists_keywords_of_compiled? hs hk
    cases h with
    | query hq => cases hq

/-- **Where the parameters of a fragment are bound, and where they are lost.** They are bound
wherever the fragment stands in a request other than as a condition. As a condition it is read as
its text, which has no parameters. -/
theorem params_bound_unless_condition (f : Fragment) (c : Connection) :
    (∀ r k, f.InRequest c r → c.compiled? r = some k →
        ∀ name, .text name ∈ f.params.keys → .text name ∈ k.params.keys) ∧
      (f.sql ≠ "" → ∀ context : Context,
        ofValue (context.fill f.value) = ofValue (context.fill (.text f.sql))) := by
  refine ⟨?_, fun hf => ofValue_fill_value hf⟩
  intro r k h hk name hname
  obtain ⟨params, l, hstatement⟩ := h.exists_statement hk
  obtain ⟨hsound, -, hparams, -⟩ := (c.compiled?_eq_some_iff hstatement).1 hk
  have hbound := h.boundIn hstatement (Layout.sound_append.1 hsound).2
  rw [hparams]
  exact (hbound.of_isInfix (List.suffix_append ..).isInfix).mem_names hname _ _

/-- A comparison with a parameter of its own. -/
def aboveBound : Fragment := ⟨"id > :x", [(.text ":x", .int 1)]⟩

/-- The parameter is bound where rows are grouped by the comparison in a nested query, and lost
where the comparison is denied. -/
theorem params_bound_unless_condition_aboveBound :
    let grouped : Query := { Clauses.empty with
      source := .positional [.text "books"], groupBy := .columns [aboveBound.value] }
    let request : Request := .delete (.text "rt") (.map [(.text "id", .query grouped)]) .null
    (∃ k, Connection.standard.compiled? request = some k ∧ .text ":x" ∈ k.params.keys) ∧
      ofValue (.list [.text "NOT", aboveBound.value]) =
        ofValue (.list [.text "NOT", .text "id > :x"]) := by
  intro grouped request
  have hgrouped : aboveBound.InQuery Connection.standard grouped :=
    .groupBy rfl (List.mem_cons_self ..)
  have hrequest : aboveBound.InRequest Connection.standard request :=
    .query (.delete ⟨[], _, .entry (List.mem_cons_self ..), rfl⟩ .refl) hgrouped
  obtain ⟨hbound, htext⟩ := params_bound_unless_condition aboveBound Connection.standard
  obtain ⟨k, hk⟩ := Option.isSome_iff_exists.1
    (show (Connection.standard.compiled? request).isSome = true by decide +kernel)
  exact ⟨⟨k, hk, hbound request k hrequest hk ":x" (List.mem_cons_self ..)⟩,
    htext (by decide) [.denied ⟨"NOT", by decide⟩ false]⟩

/-- A comparison that is the whole condition is written, but its parameter is not bound. -/
theorem not_params_bound_of_condition :
    ∃ k, Connection.standard.compiled? (.condition aboveBound.value (.list []) .null) = some k ∧
      k.sql = "id > :x" ∧ .text ":x" ∈ aboveBound.params.keys ∧ .text ":x" ∉ k.params.keys :=
  ⟨⟨"id > :x", [], "sphinx"⟩, rfl, rfl, List.mem_cons_self .., List.not_mem_nil⟩

end SearchSql.Fragment

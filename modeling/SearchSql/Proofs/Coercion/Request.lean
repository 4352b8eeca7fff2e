import SearchSql.Proofs.Coercion.Selection
import SearchSql.Proofs.Connection.Bindings

/-!
# Requests with and without known indexes

When no column holds documents, what is known of the indexes changes nothing but the values that
are bound. A request that succeeds also succeeds when nothing is known, with the same text, the
same names and the same indexes; only a value out of the range of its column is a fault that is
not met then.

## Main definitions

* `Connection.slots` — the values of a request, each with its column and the indexes of its level.
* `Connection.searched?` — the indexes that the statement of a query searches.

## Main statements

* `Connection.recast_of_schema` — what is known changes values of columns.
-/
namespace SearchSql

namespace Slot

/-- The values of a row under their columns. -/
def ofCells (names : List String) (cells : List (Value × Value)) : List Slot :=
  cells.flatMap fun (column, v) => ofValue names column v

/-- The values of a row of a batch. -/
def ofBatchRow (names : List String) (columns : List Value) (row : Value) : List Slot :=
  match row.elements? with
  | some values =>
    if values.length = columns.length then ofCells names (columns.zip values) else []
  | none => []

end Slot

/-- The values that a request binds, in their order: those of a query and its nested ones with the
indexes that each searches, those of a condition with the indexes that are listed, and those of a
change with the index that is changed. -/
def Connection.slots (c : Connection) : Request → List Slot
  | .build query _ =>
    match Query.ofValue query with
    | .ok q => (Selection.ofQuery q).slots c ++ Slot.plain (Layout.ofShowMeta c q.showMeta)
    | .error _ => []
  | .condition tree names _ =>
    match names.elements? with
    | some names => (Condition.ofValue tree).slots c (names.filterMap Value.text?)
    | none => []
  | .store _ target (.map cells) _ => Slot.ofCells target.text?.toList cells
  | .batch _ target columns rows _ =>
    match columns.elements?, rows.elements? with
    | some columns, some rows => rows.flatMap (Slot.ofBatchRow target.text?.toList columns)
    | _, _ => []
  | .update target (.map cells) tree _ options =>
    Slot.ofCells target.text?.toList cells ++
      ((Condition.ofValue tree).slots c target.text?.toList ++
        Slot.plain (Layout.ofOptionMapping options))
  | .delete target tree _ => (Condition.ofValue tree).slots c target.text?.toList
  | .snippets target source query options _ =>
    Slot.plain (Layout.ofSnippets target source query options)
  | .keywords target text _ _ => Slot.plain [.bind target, .bind text]
  | _ => []

namespace Layout.Recast

variable {c : Connection} {names : List String}

theorem ofCaller (v : Value) : Layout.Recast c [] (Layout.ofCaller v) (Layout.ofCaller v) := by
  rw [Layout.ofCaller]
  split
  · cases Params.pairsOf v <;> exact keep rfl nil
  · exact nil

theorem queryLayout (hj : c.NoJson) (q : Query) :
    Layout.Recast c ((Selection.ofQuery q).slots c ++ Slot.plain (Layout.ofShowMeta c q.showMeta))
      (c.queryLayout q) (c.withoutSchema.queryLayout q) :=
  (selection hj _).append (after _ (refl (Layout.ofShowMeta c q.showMeta)))

theorem ofCell (hj : c.NoJson) (column v : Value) :
    Layout.Recast c (Slot.ofValue names column v) (Layout.ofCell (c.known names) column v)
      (Layout.ofCell [] column v) :=
  (naming [column]).append (ofValue hj column v)

theorem ofCells (hj : c.NoJson) (cells : List (Value × Value)) :
    Layout.Recast c (Slot.ofCells names cells) (Layout.ofCells (c.known names) cells)
      (Layout.ofCells [] cells) :=
  enclose _ _ (join _ (each_map fun cell _ => ofCell hj cell.1 cell.2))

theorem ofBatchRow (hj : c.NoJson) (how : Store) (target : Value) (columns : List Value)
    (row : Value) :
    Layout.Recast c (Slot.ofBatchRow target.text?.toList columns row)
      (Layout.ofBatchRow c how target columns row)
      (Layout.ofBatchRow c.withoutSchema how target columns row) := by
  rw [Slot.ofBatchRow, Layout.ofBatchRow, Layout.ofBatchRow]
  cases row.elements? with
  | none => exact keep rfl nil
  | some values =>
    simp only
    split
    · exact withNames (ofCells hj (columns.zip values)) [target]
    · exact keep rfl nil

theorem ofRowCondition (hj : c.NoJson) (target tree : Value) :
    Layout.Recast c ((Condition.ofValue tree).slots c target.text?.toList)
      (Layout.ofRowCondition c target tree) (Layout.ofRowCondition c.withoutSchema target tree) :=
  after _ (condition hj _ _)

theorem ofUpdate (hj : c.NoJson) (target : Value) (cells : List (Value × Value))
    (tree options : Value) :
    Layout.Recast c (c.slots (.update target (.map cells) tree .null options))
      (Layout.ofUpdate c target (.map cells) tree options)
      (Layout.ofUpdate c.withoutSchema target (.map cells) tree options) := by
  have hassigned : Each c
      (cells.map fun cell => Slot.ofValue target.text?.toList cell.1 cell.2)
      (cells.map fun cell => .text (c.quoteValue cell.1 ++ "=") ::
        Layout.ofCell (c.knownIndex target) cell.1 cell.2)
      (cells.map fun cell => .text (c.quoteValue cell.1 ++ "=") ::
        Layout.ofCell [] cell.1 cell.2) :=
    each_map fun cell _ => keep rfl (ofCell hj cell.1 cell.2)
  have hall := joinPresent " "
    (.cons (withNames (text ("UPDATE " ++ c.quoteValue target ++ " SET ")
      (join ", " hassigned)) [target])
    (.cons (ofRowCondition hj target tree) (.cons (refl (Layout.ofOptionMapping options)) .nil)))
  simp only [List.flatten_cons, List.flatten_nil, List.append_nil] at hall
  exact hall

theorem ofDelete (hj : c.NoJson) (target tree : Value) :
    Layout.Recast c ((Condition.ofValue tree).slots c target.text?.toList)
      (Layout.ofDelete c target tree) (Layout.ofDelete c.withoutSchema target tree) := by
  have hall := joinPresent " "
    (.cons ((naming [target]).append (text ("DELETE FROM " ++ c.quoteValue target) nil))
    (.cons (ofRowCondition hj target tree) .nil))
  simp only [List.flatten_cons, List.flatten_nil, List.append_nil, List.nil_append] at hall
  exact hall

/-- What is written for a request, with and without known indexes. -/
theorem statement (hj : c.NoJson) {r : Request} {params : Value} {l : Layout}
    (h : c.statement? r = some (params, l)) :
    ∃ l', c.withoutSchema.statement? r = some (params, l') ∧
      Layout.Recast c (c.slots r) l l' := by
  cases r with
  | build query given =>
    cases hq : Query.ofValue query with
    | error f => simp [Connection.statement?, hq, Except.toOption] at h
    | ok q =>
      simp only [Connection.statement?, hq, Except.toOption, Option.map_some, Option.some.injEq,
        Prod.mk.injEq, Connection.slots] at h ⊢
      obtain ⟨rfl, rfl⟩ := h
      exact ⟨_, ⟨rfl, rfl⟩, queryLayout hj q⟩
  | condition tree names given =>
    obtain ⟨rfl, rfl⟩ := Prod.mk.inj (Option.some.inj h)
    refine ⟨_, rfl, ?_⟩
    rw [Connection.conditionLayout, Connection.conditionLayout, Connection.slots]
    cases names.elements? with
    | none => exact keep rfl nil
    | some listed => exact condition hj _ _
  | store how target cells given =>
    obtain ⟨rfl, rfl⟩ := Prod.mk.inj (Option.some.inj h)
    refine ⟨_, rfl, ?_⟩
    cases cells with
    | map cells => exact withNames (keep rfl (ofCells hj cells)) _
    | _ => exact keep rfl nil
  | batch how target columns rows given =>
    obtain ⟨rfl, rfl⟩ := Prod.mk.inj (Option.some.inj h)
    refine ⟨_, rfl, ?_⟩
    rw [Layout.ofBatch, Layout.ofBatch, Connection.slots]
    cases columns.elements? with
    | none => exact keep rfl nil
    | some names =>
      cases rows.elements? with
      | none => exact keep rfl nil
      | some items =>
        exact withNames (keep rfl (join _ (each_map fun row _ =>
          ofBatchRow hj how target names row))) (target :: names)
  | update target cells tree given options =>
    obtain ⟨rfl, rfl⟩ := Prod.mk.inj (Option.some.inj h)
    refine ⟨_, rfl, ?_⟩
    cases cells with
    | map cells => exact ofUpdate hj target cells tree options
    | _ => exact keep rfl nil
  | delete target tree given =>
    obtain ⟨rfl, rfl⟩ := Prod.mk.inj (Option.some.inj h)
    exact ⟨_, rfl, ofDelete hj target tree⟩
  | truncate target =>
    obtain ⟨rfl, rfl⟩ := Prod.mk.inj (Option.some.inj h)
    exact ⟨_, rfl, (naming [target]).append (keep rfl nil)⟩
  | snippets target source query options given =>
    obtain ⟨rfl, rfl⟩ := Prod.mk.inj (Option.some.inj h)
    exact ⟨_, rfl, refl _⟩
  | _ => simp [Connection.statement?] at h

end Layout.Recast

namespace Connection

variable (c : Connection)

/-- The indexes that the statement of a query searches, sub-queries included. -/
def searched? : Request → Option (List String)
  | .build query params => (Query.ofValue query).toOption.map fun q => c.entities q params
  | _ => none

variable {c}

theorem searched?_of_statement? {r : Request} {params : Value} {l l' : Layout}
    (h : c.statement? r = some (params, l)) (h' : c.withoutSchema.statement? r = some (params, l'))
    (heq : (Layout.ofCaller params ++ l).indexes = (Layout.ofCaller params ++ l').indexes) :
    c.withoutSchema.searched? r = c.searched? r := by
  cases r with
  | build query given =>
    cases hq : Query.ofValue query with
    | error f => simp [searched?, hq, Except.toOption]
    | ok q =>
      simp only [statement?, hq, Except.toOption, Option.map_some, Option.some.injEq,
        Prod.mk.injEq] at h h'
      obtain ⟨rfl, rfl⟩ := h
      obtain ⟨-, rfl⟩ := h'
      simp only [searched?, hq, Except.toOption, Option.map_some, entities]
      exact congrArg some heq.symm
  | _ => rfl

/-- **A schema changes bound values only.** No known column holds documents. A request that succeeds
also succeeds when nothing is known of the indexes, with the same text, searching the same
indexes and binding the same names in the same order. The names that are generated belong to the
values of the request, one by one. Under each name stands the same value, or what stands for
the value that the name belongs to, in the column of that value in the first of the indexes of
its level that has one. -/
theorem recast_of_schema (hj : c.NoJson) {r : Request} {k : Compiled}
    (hk : c.compiled? r = some k) :
    ∃ k' l, c.withoutSchema.compiled? r = some k' ∧ k.sql = k'.sql ∧
      c.withoutSchema.searched? r = c.searched? r ∧ k.params.keys = k'.params.keys ∧
      c.run? r = some l ∧
      (l.numbers c.settings.paramStem .empty).length = (c.slots r).length ∧
      Mapping.Recast c (l.named c.settings.paramStem .empty (c.slots r)) k.params k'.params := by
  cases hs : c.statement? r with
  | none =>
    obtain ⟨target, text, statistics, params, rfl⟩ := c.exists_keywords_of_compiled? hs hk
    have hrun := (Layout.Recast.ofCaller (c := c) params).append
      (.refl [.bind target, .bind text])
    obtain ⟨hsound, -⟩ := c.params_eq_of_run? rfl hk
    exact ⟨k, _, hk, rfl, rfl, rfl, rfl, hrun.length_numbers _ hsound _, .refl _⟩
  | some found =>
    obtain ⟨params, l⟩ := found
    obtain ⟨l', hs', hrecast⟩ := Layout.Recast.statement hj hs
    obtain ⟨hsound, hsql, hparams, -⟩ := (c.compiled?_eq_some_iff hs).1 hk
    have hwhole := (Layout.Recast.ofCaller params).append hrecast
    obtain ⟨hchars, hafter⟩ := hwhole.written c.settings.paramStem hsound
      (Mapping.Recast.refl Params.empty.entries) (List.Subset.refl _)
    have hk' := (c.withoutSchema.compiled?_eq_some_iff hs' (k := ⟨k.sql, _, c.dialect.name⟩)).2
      ⟨hwhole.sound hsound, hsql.trans hchars, rfl, rfl⟩
    rw [← hparams] at hafter
    exact ⟨_, _, hk', rfl, searched?_of_statement? hs hs' (hwhole.indexes_eq hsound),
      hafter.keys_eq, c.run?_of_statement? hs, hwhole.length_numbers _ hsound _, hafter⟩

/-- A connection on which an index with two columns is known. -/
def shelf : Connection :=
  ⟨some ⟨[⟨"books", [⟨"id", .uint⟩, ⟨"name", .string⟩]⟩]⟩, .sphinx, {}⟩

/-- The book that has a text as its number and as its name. -/
def bookOf (s : String) : Request :=
  .build (.query { Clauses.empty with
    source := .positional [.text "books b"]
    condition := .map [(.text "id", .text s), (.text "name", .text s)] }) .null

/-- The text is bound as an integer where it is a number, and as it is where it is a name. -/
theorem recast_of_schema_bookOf :
    shelf.NoJson ∧
      shelf.slots (bookOf "7") =
        [⟨["books"], .text "id", .text "7"⟩, ⟨["books"], .text "name", .text "7"⟩] ∧
      ∃ k, shelf.compiled? (bookOf "7") = some k ∧
        k.params = [(.text ":qp0", .int 7), (.text ":qp1", .text "7")] ∧
        ∃ k' l, shelf.withoutSchema.compiled? (bookOf "7") = some k' ∧ k.sql = k'.sql ∧
          shelf.withoutSchema.searched? (bookOf "7") = shelf.searched? (bookOf "7") ∧
          k.params.keys = k'.params.keys ∧ shelf.run? (bookOf "7") = some l ∧
          (l.numbers ":qp" .empty).length = (shelf.slots (bookOf "7")).length ∧
          Mapping.Recast shelf (l.named ":qp" .empty (shelf.slots (bookOf "7"))) k.params
            k'.params := by
  have hj : shelf.NoJson := by
    intro snapshot hsnapshot index hindex column hcolumn
    obtain rfl := Option.some.inj hsnapshot
    obtain rfl := List.mem_singleton.1 hindex
    simp only [List.mem_cons, List.not_mem_nil, or_false] at hcolumn
    rcases hcolumn with rfl | rfl <;> decide
  exact ⟨hj, rfl, ⟨"SELECT * FROM books b WHERE (id=:qp0) AND (name=:qp1)",
    [(.text ":qp0", .int 7), (.text ":qp1", .text "7")], "sphinx"⟩, rfl, rfl,
    recast_of_schema hj rfl⟩

end Connection

end SearchSql

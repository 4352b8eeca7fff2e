import SearchSql.Proofs.Connection.Statement
import SearchSql.Proofs.Placeholder.Selection

/-!
# Placeholders and parameters correspond

In a statement that is written with the default settings, the placeholders that are read off
the text are those of the generated parameters, in the order of their numbers, and each is
bound to the value of its place. The request supplies no text with the mark of a placeholder
in it.

## Main statements

* `Connection.framedBy_statement` — what a request writes is framed around what it supplies.
* `Connection.placeholders_correspond` — placeholders, generated parameters and bound values.
-/
namespace SearchSql

open Placeholder

namespace Layout.FramedBy

variable {c : Connection} {a b : List Leaf} {l r : Layout} {s : String}

theorem behindCaller (v : Value) (h : FramedBy a l) :
    FramedBy (Leaf.ofCaller v ++ a) (ofCaller v ++ l) := by
  rw [Leaf.ofCaller, ofCaller]
  split
  · cases Params.pairsOf v with
    | ok pairs => exact merge pairs h
    | error f => exact ⟨h.binds_eq, h.merges_eq, h.clear⟩
  · exact h

/-- A layout that is left out together with the text in front of it. -/
theorem appendAfter (hs : insulates s.toList) (ha : FramedBy a l) (hb : FramedBy b r) :
    FramedBy (a ++ b) (l ++ Layout.after s r) := by
  cases r with
  | nil =>
    have hcovers := (Leaf.Covers.refl a).append hb.covers_nil
    rw [List.append_nil] at hcovers
    rw [after_nil, List.append_nil]
    exact ha.mono hcovers
  | cons piece r => exact ha.seam hs hb

/-! ## Changes of an index -/

theorem namedValue (indexes : List Index) (column v : Value) :
    FramedBy (Leaf.ofValue indexes column v) (ofCell indexes column v) :=
  behindNaming (value indexes column v) [column]

theorem cells (indexes : List Index) (pairs : List (Value × Value)) :
    FramedBy (Leaf.ofCells indexes pairs) (ofCells indexes pairs) := by
  refine enclose (by decide) (InOrder.join (by decide) (.map _ ?_)) (by decide)
  rintro ⟨column, v⟩ _
  exact namedValue indexes column v

theorem optionMapping (v : Value) :
    FramedBy (Leaf.ofOptionMapping v) (ofOptionMapping v) := by
  unfold Leaf.ofOptionMapping ofOptionMapping
  split
  · exact nil
  · cases v with
    | map pairs => exact named (options _) _
    | _ => exact fault _

theorem documents (source : Value) : FramedBy (Leaf.ofDocuments source) (ofDocuments source) := by
  rw [Leaf.ofDocuments, ofDocuments]
  cases source.sequence? with
  | none => exact bind source
  | some items =>
    have hitems := InOrder.map items fun v _ => bind v
    rw [← List.map_eq_flatMap] at hitems
    exact enclose (by decide) (hitems.join (by decide)) (by decide)

theorem appendFault (h : FramedBy a l) (f : Fault) : FramedBy a (l ++ [.fault f]) where
  binds_eq := by
    rw [binds_append, h.binds_eq]
    exact List.append_nil _
  merges_eq := by
    rw [merges_append, h.merges_eq]
    exact List.append_nil _
  clear hfree := by simpa [Piece.cells] using h.clear hfree

/-- The options of a call stand behind its other arguments. -/
theorem appendCallOptions (v : Value) (h : FramedBy a l) :
    FramedBy (a ++ Leaf.ofCallOptions v) (l ++ ofCallOptions v) := by
  unfold Leaf.ofCallOptions ofCallOptions
  split
  · simpa using h
  · cases v with
    | map pairs =>
      refine h.seam (by decide) (InOrder.join (by decide) (.map _ ?_))
      rintro ⟨name, v⟩ _
      exact fuseBehind ((named (plain v) [name]).seam (by decide) (verbatim _))
    | _ => simpa using h.appendFault _

theorem snippets (target source query options : Value) :
    FramedBy (Leaf.ofSnippets target source query options)
      (ofSnippets target source query options) := by
  have hquery := appendCallOptions options (bind query)
  have harguments := (documents source).seam (s := ", ") (by decide)
    ((bind target).seam (s := ", ") (by decide) hquery)
  exact enclose (by decide) harguments (by decide)

theorem batchRow (how : Store) (target : Value) (columns : List Value) (row : Value) :
    FramedBy (Leaf.ofBatchRow c target columns row) (ofBatchRow c how target columns row) := by
  rw [Leaf.ofBatchRow, ofBatchRow]
  cases row.elements? with
  | none => exact fault _
  | some values =>
    by_cases hwidth : values.length = columns.length
    · simp only [hwidth, if_true]
      exact named (cells _ _) [target]
    · simp only [hwidth, if_false]
      exact fault _

section

variable (hd : c.dialect.KeepsFree)
include hd

theorem storeHead (how : Store) (target : Value) (columns : List Value) (h : FramedBy a l) :
    FramedBy (Leaf.ofStoreHead target columns ++ a) (.text (storeHead c how target columns) :: l) := by
  have hword : insulates (how.keyword ++ " INTO ").toList = true := by cases how <;> decide
  have hcolumns := (quotedColumns hd columns).seam (s := ") VALUES ") (by decide) h
  have hhead := ((quoted hd target.display).seam (s := " (") (by decide) hcolumns).opened hword
  exact fuse (fuse (fuse (fuse hhead)))

theorem store (how : Store) (target cells' : Value) :
    FramedBy (Leaf.ofStore c target cells') (ofStore c how target cells') := by
  cases cells' with
  | map pairs => exact named (storeHead hd how target _ (cells _ pairs)) _
  | _ => exact fault _

theorem batch (how : Store) (target columns rows : Value) :
    FramedBy (Leaf.ofBatch c target columns rows) (ofBatch c how target columns rows) := by
  rw [Leaf.ofBatch, ofBatch]
  cases columns.elements? with
  | none => exact fault _
  | some columns =>
    cases rows.elements? with
    | none => exact fault _
    | some rows =>
      exact named (storeHead hd how target columns (InOrder.join (by decide)
        (.map rows fun row _ => batchRow how target columns row))) (target :: columns)

variable (hs : insulates c.settings.separator.toList)
include hs

theorem rowCondition (target tree : Value) :
    FramedBy (Leaf.ofRowCondition c target tree) (ofRowCondition c target tree) :=
  (condition hd hs _ _).after (by decide)

theorem update (target cells' tree options : Value) :
    FramedBy (Leaf.ofUpdate c target cells' tree options)
      (ofUpdate c target cells' tree options) := by
  cases cells' with
  | map pairs =>
    have hcells : InOrder (pairs.flatMap fun cell => .quoted cell.1.display ::
          Leaf.ofValue (c.knownIndex target) cell.1 cell.2)
        (pairs.map fun cell => .text (c.quoteValue cell.1 ++ "=") ::
          ofCell (c.knownIndex target) cell.1 cell.2) := by
      refine .map _ ?_
      rintro ⟨column, v⟩ _
      exact behindName hd column.display (by decide) (namedValue _ column v)
    have hhead := (fuse (fuse (((quoted hd target.display).seam (s := " SET ") (by decide)
      (hcells.join (s := ", ") (by decide))).opened (s := "UPDATE ") (by decide)))).named [target]
    have hclauses := InOrder.cons hhead (.cons (rowCondition hd hs target tree)
      (.singleton (optionMapping options)))
    have hjoined := hclauses.joinPresent (s := " ") (by decide)
    rw [List.append_assoc] at hjoined
    exact hjoined
  | _ => exact fault _

theorem delete (target tree : Value) :
    FramedBy (Leaf.ofDelete c target tree) (ofDelete c target tree) := by
  have hhead := behindNaming
    (fuse (opened (s := "DELETE FROM ") (by decide) (quoted hd target.display))) [target]
  have hclauses := InOrder.cons hhead (.singleton (rowCondition hd hs target tree))
  exact hclauses.joinPresent (by decide)

end

end Layout.FramedBy

namespace Connection

open Layout

variable (c : Connection)

theorem framedBy_queryLayout (hd : c.dialect.KeepsFree) (hs : c.settings = {}) (q : Query) :
    FramedBy ((Selection.ofQuery q).leaves c ++ Leaf.ofShowMeta c q.showMeta)
      (c.queryLayout q) := by
  have hseparator : insulates c.settings.separator.toList = true := by rw [hs]; decide
  have hquery : insulates c.settings.querySeparator.toList = true := by rw [hs]; decide
  exact .appendAfter hquery (.selection hd hseparator _) (.showMeta _)

/-- **What a request writes is framed around what it supplies.** -/
theorem framedBy_statement (hd : c.dialect.KeepsFree) (hs : c.settings = {}) {r : Request}
    {leaves : List Leaf} (h : c.leaves? r = some leaves) :
    ∃ params l, c.statement? r = some (params, l) ∧ FramedBy leaves (ofCaller params ++ l) := by
  have hseparator : insulates c.settings.separator.toList = true := by rw [hs]; decide
  cases r with
  | build query params =>
    obtain ⟨q, hq, rfl⟩ := Option.map_eq_some_iff.1 h
    refine ⟨params, c.queryLayout q, by simp only [statement?, hq, Option.map_some], ?_⟩
    exact .behindCaller params (c.framedBy_queryLayout hd hs q)
  | condition tree names params =>
    obtain ⟨items, hitems, rfl⟩ := Option.map_eq_some_iff.1 h
    refine ⟨params, c.conditionLayout tree names, rfl, ?_⟩
    simp only [conditionLayout, hitems]
    exact .behindCaller params (.condition hd hseparator _ _)
  | store how target cells params =>
    obtain rfl := Option.some.inj h
    exact ⟨params, _, rfl, .behindCaller params (.store hd how target cells)⟩
  | batch how target names rows params =>
    obtain rfl := Option.some.inj h
    exact ⟨params, _, rfl, .behindCaller params (.batch hd how target names rows)⟩
  | update target cells tree params options =>
    obtain rfl := Option.some.inj h
    exact ⟨params, _, rfl, .behindCaller params (.update hd hseparator target cells tree options)⟩
  | delete target tree params =>
    obtain rfl := Option.some.inj h
    exact ⟨params, _, rfl, .behindCaller params (.delete hd hseparator target tree)⟩
  | truncate target =>
    obtain rfl := Option.some.inj h
    refine ⟨.null, _, rfl, ?_⟩
    exact .behindNaming
      (.fuse (.opened (s := "TRUNCATE RTINDEX ") (by decide) (.quoted hd target.display))) [target]
  | snippets target source query options params =>
    obtain rfl := Option.some.inj h
    exact ⟨params, _, rfl, .behindCaller params (.snippets target source query options)⟩
  | _ => cases h

/-- **Placeholders and parameters correspond.** No text that the request supplies, and no name
of its parameters, has the mark of a placeholder in it. The placeholders that are read off the
text have growing numbers; their names are the names of the parameters that were not
supplied; and they are bound to the values of the places, in the order of the clauses. -/
theorem placeholders_correspond (hd : c.dialect.KeepsFree) (hs : c.settings = {}) {r : Request}
    {leaves : List Leaf} (hleaves : c.leaves? r = some leaves)
    (hfree : ∀ leaf ∈ leaves, leaf.Free) {k : Compiled} (hk : c.compiled? r = some k) :
    ∃ numbers : List Nat,
      numbers.Pairwise (· < ·) ∧
      read k.sql.toList = numbers.map digits ∧
      (∀ key, (key ∈ k.params.keys ∧
          ∀ params ∈ leaves.filterMap Leaf.params?, key ∉ params.keys) ↔
        ∃ n ∈ numbers, key = .text (Params.numbered ":qp" n)) ∧
      numbers.map (fun n => k.params.named? (Params.numbered ":qp" n)) =
        (leaves.filterMap Leaf.value?).map some := by
  obtain ⟨params, l, hstatement, hframed⟩ := c.framedBy_statement hd hs hleaves
  obtain ⟨-, hsql, hparams, -⟩ := (c.compiled?_eq_some_iff hstatement).1 hk
  have hstem : c.settings.paramStem = ":qp" := by rw [hs]
  rw [hstem] at hsql hparams
  generalize ofCaller params ++ l = whole at hframed hsql hparams
  have hunnumbered := hframed.unnumbered hfree
  have hempty := Params.wellNumbered_empty ":qp"
  refine ⟨whole.numbers ":qp" .empty, pairwise_numbers hunnumbered hempty, ?_, ?_, ?_⟩
  · rw [hsql, charsAt_eq_fill]
    exact read_fill (hframed.clear hfree) (count_none_cells ..)
  · intro key
    rw [hparams]
    constructor
    · rintro ⟨hkey, hsupplied⟩
      rcases mem_names_paramsAfter hkey with hstart | ⟨given, hgiven, hmem⟩ | hnumber
      · simp [Params.names, Params.empty, Mapping.keys] at hstart
      · rw [hframed.merges_eq] at hgiven
        exact absurd hmem (hsupplied given hgiven)
      · exact hnumber
    · rintro ⟨n, hn, rfl⟩
      refine ⟨Mapping.isSome_named?_iff.1 (isSome_named?_numbers hunnumbered hempty hn), ?_⟩
      intro given hgiven
      rw [← hframed.merges_eq] at hgiven
      exact hunnumbered given hgiven n
  · rw [hparams, map_named?_numbers hunnumbered hempty, hframed.binds_eq]

/-- A condition with two values, a raw fragment and a parameter of its caller. -/
def booksOf (first second : Int) (author : String) : Request :=
  .condition
    (.map [(.text "id", .list [.int first, .int second]),
      (.text "author", .raw ":author" [(.text ":author", .text author)])])
    (.list []) (.map [(.text ":shelf", .int 7)])

theorem placeholders_correspond_booksOf :
    ∃ leaves k, standard.leaves? (booksOf 1 2 "Ann") = some leaves ∧
      (∀ leaf ∈ leaves, leaf.Free) ∧ standard.compiled? (booksOf 1 2 "Ann") = some k ∧
      ∃ numbers : List Nat,
        numbers.Pairwise (· < ·) ∧
        read k.sql.toList = numbers.map digits ∧
        (∀ key, (key ∈ k.params.keys ∧
            ∀ params ∈ leaves.filterMap Leaf.params?, key ∉ params.keys) ↔
          ∃ n ∈ numbers, key = .text (Params.numbered ":qp" n)) ∧
        numbers.map (fun n => k.params.named? (Params.numbered ":qp" n)) =
          (leaves.filterMap Leaf.value?).map some := by
  have hleaves : standard.leaves? (booksOf 1 2 "Ann") = some
      [.given [(.text ":shelf", .int 7)], .quoted "id", .bound (.int 1), .bound (.int 2),
        .quoted "author", .given [(.text ":author", .text "Ann")], .verbatim ":author"] := rfl
  have hfree : ∀ leaf ∈ [Leaf.given [(.text ":shelf", .int 7)], .quoted "id", .bound (.int 1),
      .bound (.int 2), .quoted "author", .given [(.text ":author", .text "Ann")],
      .verbatim ":author"], leaf.Free := by
    intro leaf hleaf
    simp only [List.mem_cons, List.not_mem_nil, or_false] at hleaf
    rcases hleaf with rfl | rfl | rfl | rfl | rfl | rfl | rfl
    all_goals simp [Leaf.Free, Placeholder.Free, mark, Mapping.keys]
    all_goals decide
  obtain ⟨k, hk⟩ := Option.isSome_iff_exists.1
    (show (standard.compiled? (booksOf 1 2 "Ann")).isSome = true by decide +kernel)
  exact ⟨_, k, hleaves, hfree, hk,
    placeholders_correspond standard Dialect.keepsFree_sphinx rfl hleaves hfree hk⟩

end Connection

end SearchSql

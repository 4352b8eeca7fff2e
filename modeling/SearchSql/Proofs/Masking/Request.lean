import SearchSql.Proofs.Connection.Statement
import SearchSql.Proofs.Masking.Selection
import SearchSql.Proofs.Params.Names

/-!
# Data never reaches the text of a statement

Two requests that become equal when their data is masked are answered with the same text
and with parameters of the same names in the same order. Their layouts agree but for what
is hidden, and what is hidden decides neither the text nor the names.

## Main statements

* `Connection.sql_eq_of_masked_eq` — two requests that differ only in their data.
-/
namespace SearchSql

namespace Layout

variable (stem : String)

/-- A piece and one that is hidden alike write the same and bind the same name. -/
theorem step_of_hidden_eq {piece piece' : Piece} (h : piece.hidden = piece'.hidden)
    (hl : piece.isFault = false) (hr : piece'.isFault = false) {p q : Params}
    (hp : p.names = q.names) :
    p.written stem piece = q.written stem piece' ∧
      (p.after stem piece).names = (q.after stem piece').names := by
  cases piece with
  | bind v =>
    cases piece' with
    | bind w =>
      refine ⟨?_, Params.names_bind_congr hp stem v w⟩
      simp only [Params.written, Params.nextName_congr hp]
    | fault f => simp [Piece.isFault] at hr
    | _ => simp [Piece.hidden] at h
  | fault f => simp [Piece.isFault] at hl
  | merge params =>
    obtain rfl : piece' = .merge params := by
      cases piece' <;> simp_all [Piece.hidden]
    exact ⟨rfl, Params.names_merge_congr hp params⟩
  | text s =>
    obtain rfl : piece' = .text s := by
      cases piece' <;> simp_all [Piece.hidden]
    exact ⟨rfl, hp⟩
  | indexes names =>
    obtain rfl : piece' = .indexes names := by
      cases piece' <;> simp_all [Piece.hidden]
    exact ⟨rfl, hp⟩

/-- What is written and the names that are bound do not depend on the hidden values. -/
theorem charsAt_eq_of_hidden_eq {l r : Layout} (h : l.hidden = r.hidden) (hl : l.Sound)
    (hr : r.Sound) {p q : Params} (hp : p.names = q.names) :
    l.charsAt stem p = r.charsAt stem q ∧
      (l.paramsAfter stem p).names = (r.paramsAfter stem q).names := by
  induction l generalizing r p q with
  | nil =>
    obtain rfl : r = [] := by simpa [hidden] using h.symm
    exact ⟨rfl, hp⟩
  | cons piece l ih =>
    obtain ⟨piece', r, rfl⟩ : ∃ piece' r', r = piece' :: r' := by
      cases r with
      | nil => simp at h
      | cons piece' r => exact ⟨piece', r, rfl⟩
    simp only [hidden_cons, List.cons.injEq] at h
    obtain ⟨hpiece, hl⟩ := sound_cons.1 hl
    obtain ⟨hpiece', hr⟩ := sound_cons.1 hr
    have hstep := step_of_hidden_eq stem h.1 hpiece hpiece' hp
    obtain ⟨hchars, hnames⟩ := ih h.2 hl hr hstep.2
    exact ⟨by simp [hstep.1, hchars], hnames⟩

/-! ## Statements -/

variable (c : Connection)

theorem map_fst_maskedPairs (cells : List (Value × Value)) :
    (Value.maskedPairs cells).map Prod.fst = cells.map Prod.fst := by
  simp [maskedPairs_eq_map, Function.comp_def]

theorem hidden_ofCells (indexes : List Index) (cells : List (Value × Value)) :
    (ofCells indexes (Value.maskedPairs cells)).hidden = (ofCells indexes cells).hidden := by
  simp [ofCells, maskedPairs_eq_map, Function.comp_def]

theorem hidden_ofStore (how : Store) (target cells : Value) :
    (ofStore c how target cells.maskedCells).hidden = (ofStore c how target cells).hidden := by
  cases cells with
  | map pairs =>
    simp only [Value.maskedCells, ofStore, hidden_append, hidden_cons, map_fst_maskedPairs,
      hidden_ofCells]
  | _ => rfl

/-- A row of a batch is masked cell by cell, so its width stays. -/
theorem hidden_ofBatchRow (how : Store) (target : Value) (names : List Value) (row : Value) :
    (ofBatchRow c how target names row.maskedRow).hidden =
      (ofBatchRow c how target names row).hidden := by
  cases row with
  | list cells | tuple cells | set cells =>
    simp only [Value.maskedRow, ofBatchRow, Value.elements?, maskedAll_eq_map, List.length_map]
    split
    · have hzip : names.zip (cells.map Value.masked) = Value.maskedPairs (names.zip cells) := by
        rw [maskedPairs_eq_map, List.zip_map_right]
        rfl
      rw [hzip, hidden_append, hidden_append, hidden_ofCells]
    · rfl
  | _ => rfl

theorem hidden_ofBatch (how : Store) (target names rows : Value) :
    (ofBatch c how target names rows.maskedRows).hidden =
      (ofBatch c how target names rows).hidden := by
  unfold ofBatch
  generalize names.elements? = found
  cases rows with
  | list items | tuple items | set items =>
    cases found <;>
      simp [Value.maskedRows, Value.elements?, Function.comp_def, hidden_ofBatchRow]
  | _ => rfl

theorem hidden_ofRowCondition (target tree : Value) :
    (ofRowCondition c target tree.maskedCondition).hidden =
      (ofRowCondition c target tree).hidden := by
  simp [ofRowCondition, hidden_condition]

@[simp] theorem truthy_maskedCells (v : Value) : v.maskedCells.truthy = v.truthy := by
  cases v with
  | map pairs => simp [Value.maskedCells, Value.truthy, maskedPairs_eq_map]
  | _ => rfl

theorem hidden_ofOptionMapping (options : Value) :
    (ofOptionMapping options.maskedCells).hidden = (ofOptionMapping options).hidden := by
  unfold ofOptionMapping
  rw [truthy_maskedCells]
  cases options with
  | map pairs =>
    have hnamed : (Value.maskedPairs pairs).map (fun option => (option.1.display, option.2)) =
        Value.maskedNamed (pairs.map fun option => (option.1.display, option.2)) := by
      induction pairs with
      | nil => rfl
      | cons pair rest ih => simpa [Value.maskedPairs, Value.maskedNamed] using ih
    simp only [Value.maskedCells, hnamed, apply_ite hidden, hidden_append, hidden_ofOptions,
      map_fst_maskedPairs]
  | _ => rfl

theorem hidden_ofUpdate (target cells tree options : Value) :
    (ofUpdate c target cells.maskedCells tree.maskedCondition options.maskedCells).hidden =
      (ofUpdate c target cells tree options).hidden := by
  cases cells with
  | map pairs =>
    have hcells : (Value.map pairs).maskedCells = .map (Value.maskedPairs pairs) := rfl
    simp [hcells, ofUpdate, hidden_ofRowCondition, hidden_ofOptionMapping, maskedPairs_eq_map,
      Function.comp_def]
  | _ => rfl

theorem hidden_ofDelete (target tree : Value) :
    (ofDelete c target tree.maskedCondition).hidden = (ofDelete c target tree).hidden := by
  simp [ofDelete, hidden_ofRowCondition]

theorem sequence?_masked (v : Value) :
    v.masked.sequence? = v.sequence?.map Value.maskedAll := by
  cases v <;> rfl

theorem hidden_ofDocuments (source : Value) :
    (ofDocuments source.masked).hidden = (ofDocuments source).hidden := by
  unfold ofDocuments
  rw [sequence?_masked]
  cases source.sequence? with
  | none => rfl
  | some documents => simp [maskedAll_eq_map, Function.comp_def, Piece.hidden]

theorem hidden_ofCallOptions (options : Value) :
    (ofCallOptions options.maskedCells).hidden = (ofCallOptions options).hidden := by
  unfold ofCallOptions
  rw [truthy_maskedCells]
  cases options with
  | map pairs =>
    simp [Value.maskedCells, maskedPairs_eq_map, Function.comp_def, apply_ite hidden]
  | _ => rfl

theorem hidden_ofSnippets (target source query options : Value) :
    (ofSnippets target.masked source.masked query.masked options.maskedCells).hidden =
      (ofSnippets target source query options).hidden := by
  simp [ofSnippets, hidden_ofDocuments, hidden_ofCallOptions, Piece.hidden]

end Layout

namespace Connection

variable (c : Connection)

open Layout

theorem hidden_conditionLayout (tree names : Value) :
    (c.conditionLayout tree.maskedCondition names).hidden =
      (c.conditionLayout tree names).hidden := by
  unfold conditionLayout
  cases names.elements? with
  | none => rfl
  | some items => exact hidden_condition c _ tree

theorem hidden_queryLayout (q : Query) :
    (c.queryLayout q.masked).hidden = (c.queryLayout q).hidden := by
  have hshow : q.masked.showMeta = q.showMeta := by
    cases q
    simp only [Clauses.masked]
  simp only [queryLayout, hidden_append, hidden_selection, hshow]

@[simp] theorem maskedQuery_query (q : Query) :
    (Value.query q).maskedQuery = .query q.masked := rfl

/-- A request and the request without its data are laid out alike. -/
theorem statement?_masked (r : Request) :
    (c.statement? r.masked).map (fun (params, l) => (params, l.hidden)) =
      (c.statement? r).map (fun (params, l) => (params, l.hidden)) := by
  cases r with
  | build query params =>
    simp only [Request.masked, statement?]
    cases hq : Query.ofValue query with
    | error f =>
      have hmasked : query.maskedQuery = query := by simp only [Value.maskedQuery, hq]
      rw [hmasked, hq]
    | ok q =>
      have hmasked : query.maskedQuery = .query q.masked := by simp only [Value.maskedQuery, hq]
      have hread : Query.ofValue (.query q.masked) = .ok q.masked := rfl
      simp only [hmasked, hread, Except.toOption, Option.map_some, hidden_queryLayout]
  | condition tree names params =>
    simp [Request.masked, statement?, hidden_conditionLayout]
  | store how target cells params => simp [Request.masked, statement?, hidden_ofStore]
  | batch how target names rows params => simp [Request.masked, statement?, hidden_ofBatch]
  | update target cells tree params options =>
    simp [Request.masked, statement?, hidden_ofUpdate]
  | delete target tree params => simp [Request.masked, statement?, hidden_ofDelete]
  | snippets target source query options params =>
    simp only [Request.masked, statement?, Option.map_some, hidden_ofSnippets]
  | _ => simp only [Request.masked, statement?]

/-- **Bound data never reaches the text of a statement.** Two requests that differ only in
their data, at any depth, are answered with the same text and with parameters of the same
names in the same order, if both are answered. -/
theorem sql_eq_of_masked_eq {r r' : Request} (h : r.masked = r'.masked) {k k' : Compiled}
    (hk : c.compiled? r = some k) (hk' : c.compiled? r' = some k') :
    k.sql = k'.sql ∧ k.params.keys = k'.params.keys := by
  cases hs : c.statement? r with
  | some found =>
    obtain ⟨params, l⟩ := found
    have hmasked := statement?_masked c r
    rw [h, statement?_masked c r', hs] at hmasked
    obtain ⟨⟨params', l'⟩, hs', heq⟩ := Option.map_eq_some_iff.1 hmasked
    obtain ⟨rfl, hhidden⟩ := Prod.mk.injEq .. ▸ heq
    obtain ⟨hl, hsql, hparams, -⟩ := (compiled?_eq_some_iff c hs).1 hk
    obtain ⟨hl', hsql', hparams', -⟩ := (compiled?_eq_some_iff c hs').1 hk'
    have hsame : (Layout.ofCaller params' ++ l).hidden = (Layout.ofCaller params' ++ l').hidden := by
      simp only [hidden_append, hhidden]
    obtain ⟨hchars, hnames⟩ := charsAt_eq_of_hidden_eq c.settings.paramStem hsame hl hl' rfl
    refine ⟨String.toList_inj.1 ?_, ?_⟩
    · rw [hsql, hsql', hchars]
    · rw [hparams, hparams']
      exact hnames
  | none =>
    obtain ⟨target, text, statistics, params, rfl⟩ := exists_keywords_of_compiled? c hs hk
    cases r' with
    | keywords target' text' statistics' params' =>
      simp only [Request.masked, Request.keywords.injEq] at h
      obtain ⟨-, -, rfl, rfl⟩ := h
      obtain ⟨-, rfl⟩ := (compiled?_keywords_eq_some_iff c).1 hk
      obtain ⟨-, rfl⟩ := (compiled?_keywords_eq_some_iff c).1 hk'
      have hstart := Eq.refl ((ofCaller params).paramsAfter c.settings.paramStem .empty).names
      have hindex := Params.names_bind_congr hstart c.settings.paramStem target target'
      refine ⟨?_, Params.names_bind_congr hindex _ text text'⟩
      simp only [Params.nextName_congr hindex]
    | _ => simp [Request.masked] at h

/-- A search for some words, among the rows that a sub-query finds between two bounds. -/
def searchFor (words : String) (low high : Int) : Request :=
  .build (.query { Clauses.empty with
    source := .positional [.text "books"]
    fulltext := .text words
    condition := .map [(.text "id", .query { Clauses.empty with
      source := .positional [.text "sales"]
      condition := .list [.text "between", .text "price", .int low, .int high] })] }) .null

theorem masked_searchFor (words : String) (low high : Int) :
    (searchFor words low high).masked = (searchFor "" 0 0).masked := by
  have hbetween : Operator.ofKeyword? (Operator.normalize "between") = some .between := by
    decide +kernel
  simp [searchFor, Request.masked, Clauses.masked, Clauses.empty, Value.masked,
    Value.maskedCondition, Value.maskedForm, Value.maskedPairs, Value.maskedOperands,
    Value.maskedAll, hbetween]

theorem sql_eq_of_masked_eq_searchFor :
    ∃ k k', standard.compiled? (searchFor "night" 1 2) = some k ∧
      standard.compiled? (searchFor "day" 7 90) = some k' ∧
      k.sql = k'.sql ∧ k.params.keys = k'.params.keys := by
  have hmasked : (searchFor "night" 1 2).masked = (searchFor "day" 7 90).masked := by
    rw [masked_searchFor, masked_searchFor "day"]
  obtain ⟨k, hk⟩ := Option.isSome_iff_exists.1
    (show (standard.compiled? (searchFor "night" 1 2)).isSome = true by decide +kernel)
  obtain ⟨k', hk'⟩ := Option.isSome_iff_exists.1
    (show (standard.compiled? (searchFor "day" 7 90)).isSome = true by decide +kernel)
  exact ⟨k, k', hk, hk', sql_eq_of_masked_eq standard hmasked hk hk'⟩

end Connection

end SearchSql

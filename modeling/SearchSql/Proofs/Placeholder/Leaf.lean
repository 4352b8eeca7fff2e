import Mathlib
import SearchSql.Connection.Request

/-!
# What a request supplies to its statement

A statement is made of fixed words and of what the request supplies: names, which are
quoted, texts, which are written as they are, parameters with their own names, and values,
which are bound. Here they are listed in the order of the clauses, sub-queries in place. The
fixed words, the parentheses and the numbers of parameters play no part in the list.

## Main definitions

* `Leaf` — one thing that is supplied.
* `Condition.leaves`, `Selection.leaves` — what a condition and a selection supply.
* `Connection.leaves?` — what a request supplies.
-/
namespace SearchSql

/-- What is supplied at one place of a statement. -/
inductive Leaf where
  /-- A name, which is quoted. -/
  | quoted (s : String)
  /-- A text, which is written as it is. -/
  | verbatim (s : String)
  /-- Parameters that are bound under their own names. -/
  | given (params : Mapping)
  /-- A value, which is bound as it stands here. -/
  | bound (v : Value)

namespace Leaf

/-- The value that is bound at a leaf. -/
def value? : Leaf → Option Value
  | .bound v => some v
  | _ => none

/-- The parameters with their own names at a leaf. -/
def params? : Leaf → Option Mapping
  | .given params => some params
  | _ => none

/-! ## Values -/

/-- A raw fragment supplies its parameters and its text. -/
def ofRaw (sql : String) (params : Mapping) : List Leaf := [.given params, .verbatim sql]

/-- A value that is bound when there is one. -/
def ofChecked (v : Checked Value) : List Leaf := v.toOption.toList.map .bound

/-- A single value of a column, coerced to it. -/
def ofBound (column : Option Column) : Value → List Leaf
  | .raw sql params => ofRaw sql params
  | v => ofChecked (Column.coerce column v)

/-- A value that is not coerced. -/
def ofPlain : Value → List Leaf
  | .raw sql params => ofRaw sql params
  | v => [.bound v]

/-- Several values of a column; a JSON column has them as one. -/
def ofMembers (column : Option Column) (v : Value) (items : List Value) : List Leaf :=
  match column with
  | some ⟨_, .json⟩ => ofBound column v
  | _ => items.flatMap (ofBound column)

/-- A value of a column. -/
def ofValue (indexes : List Index) (column : Value) : Value → List Leaf
  | .null | .query _ => []
  | .raw sql params => ofRaw sql params
  | .list items => ofMembers (Layout.columnOf indexes column) (.list items) items
  | .tuple items => ofMembers (Layout.columnOf indexes column) (.tuple items) items
  | .set items => ofMembers (Layout.columnOf indexes column) (.set items) items
  | v => ofBound (Layout.columnOf indexes column) v

/-- A value of a column, unless there is none by some fault. -/
def ofCell (indexes : List Index) (column : Value) : Checked Value → List Leaf
  | .ok v => ofValue indexes column v
  | .error _ => []

/-- The value on the right of a comparison. -/
def ofCompared : Value → List Leaf
  | .null => []
  | v => ofPlain v

mutual

/-- The value of an option, part by part. -/
def ofOption : Value → List Leaf
  | .raw sql params => ofRaw sql params
  | .map pairs => ofOptionPairs pairs
  | .list items => ofOptionItems items
  | .tuple items => ofOptionItems items
  | v => [.bound v]

/-- The parts of an option that is a list. -/
def ofOptionItems : List Value → List Leaf
  | [] => []
  | v :: rest => ofOption v ++ ofOptionItems rest

/-- The parts of an option that is a mapping, each after its name. -/
def ofOptionPairs : List (Value × Value) → List Leaf
  | [] => []
  | (.text name, v) :: rest => .verbatim name :: ofOption v ++ ofOptionPairs rest
  | (_, v) :: rest => ofOption v ++ ofOptionPairs rest

end

/-- A pattern, escaped. -/
def ofPattern (table : Value) : Value → List Leaf
  | .raw sql params => ofRaw sql params
  | v => ofChecked (Like.pattern v table)

/-- What the text of a value supplies. -/
def ofShown (v : Value) (leaves : String → List Leaf) : List Leaf :=
  match v.shown with
  | .ok s => leaves s
  | .error _ => []

/-- A full-text query, escaped. -/
def ofFulltext : Value → List Leaf
  | .raw sql params => ofRaw sql params
  | v => ofShown v fun s => [.bound (.text (Match.escape s))]

/-! ## Clauses -/

/-- A name with its label. -/
def ofLabeled (name : String) (label : Option String) : List Leaf :=
  .quoted name :: label.toList.map .quoted

/-- A raw fragment with its label. -/
def ofRawLabeled (sql : String) (params : Mapping) (label : Option String) : List Leaf :=
  ofRaw sql params ++ label.toList.map .quoted

/-- A field. -/
def ofField : Field → List Leaf
  | .named name label => ofLabeled name label
  | .raw sql params label => ofRawLabeled sql params label
  | .unwritable => []

/-- A column of a list. -/
def ofColumn : ListedColumn → List Leaf
  | .named name => [.quoted name]
  | .raw sql params => ofRaw sql params
  | .unwritable => []

/-- A part of an ordering. -/
def ofOrderTerm : OrderTerm → List Leaf
  | .raw sql params => ofRaw sql params
  | .column name _ => [.quoted name]
  | .unwritable => []

/-- Named options. -/
def ofOptions (options : List (String × Value)) : List Leaf :=
  options.flatMap fun (name, v) => .verbatim name :: ofOption v

/-- An ordering that may be at fault. -/
def ofCheckedOrder : Checked (List OrderTerm) → List Leaf
  | .ok terms => terms.flatMap ofOrderTerm
  | .error _ => []

/-- A facet. -/
def ofFacet : Checked Facet → List Leaf
  | .ok facet => facet.fields.flatMap ofField ++ ofCheckedOrder facet.order
  | .error _ => []

/-- The statement that shows statistics. -/
def ofShowMeta (c : Connection) (v : Value) : List Leaf :=
  if !v.truthy then []
  else match v with
    | .bool _ => []
    | .raw sql params => ofRaw sql params
    | v => ofShown v fun s => ofPattern (Like.tableValue c.settings.likeEscape) (.text s)

/-- The parameters of a caller. -/
def ofCaller (v : Value) : List Leaf :=
  if v.truthy then (Params.pairsOf v).toOption.toList.map .given else []

end Leaf

mutual

/-- What a condition supplies. -/
def Condition.leaves (c : Connection) (indexes : List Index) : Condition → List Leaf
  | .omitted | .always | .never | .malformed _ => []
  | .verbatim sql => [.verbatim sql]
  | .connected _ operands => Condition.leavesAll c indexes operands
  | .negation operand => operand.leaves c indexes
  | .record entries => Condition.leavesAll c indexes entries
  | .isNull column => [.quoted column.display]
  | .equals column operand => .quoted column.display :: Leaf.ofValue indexes column operand
  | .between _ column low high =>
    .quoted column.display :: (Leaf.ofValue indexes column low ++ Leaf.ofValue indexes column high)
  | .among _ column operands =>
    .quoted column.display :: operands.flatMap (Leaf.ofCell indexes column)
  | .amongRows _ columns rows =>
    columns.map (fun column => .quoted column.display) ++
      rows.flatMap fun row => (columns.zipWith (Leaf.ofCell indexes) row).flatten
  | .amongSelected _ columns selection =>
    columns.map (fun column => .quoted column.display) ++ selection.leaves c
  | .like _ _ column escape patterns =>
    patterns.flatMap fun pattern => .quoted column.display ::
      Leaf.ofPattern (escape.getD (Like.tableValue c.settings.likeEscape)) pattern
  | .compared operator column operand =>
    .quoted column.display :: .verbatim operator :: Leaf.ofCompared operand

/-- What several conditions supply. -/
def Condition.leavesAll (c : Connection) (indexes : List Index) : List Condition → List Leaf
  | [] => []
  | condition :: rest => condition.leaves c indexes ++ Condition.leavesAll c indexes rest

/-- What a source supplies. -/
def Source.leaves (c : Connection) : Source → List Leaf
  | .index name label => Leaf.ofLabeled name label
  | .named name label => Leaf.ofLabeled name label
  | .raw sql params label => Leaf.ofRawLabeled sql params label
  | .selection selection label => selection.leaves c ++ [.quoted label]
  | .unwritable => []

/-- What several sources supply. -/
def Source.leavesAll (c : Connection) : List Source → List Leaf
  | [] => []
  | source :: rest => source.leaves c ++ Source.leavesAll c rest

/-- What a selection supplies, clause by clause. -/
def Selection.leaves (c : Connection) : Selection → List Leaf
  | { params, isJoined, distinct := _, modifier, fields, sources, fulltext, condition, groupBy,
      within, having, order, limit := _, offset := _, options, facets } =>
    let indexes := c.known (sources.filterMap Source.indexName?)
    .given params :: if isJoined then [] else
      modifier.toList.map .verbatim ++ fields.flatMap Leaf.ofField ++
      Source.leavesAll c sources ++
      (if fulltext.isNull then [] else Leaf.ofFulltext fulltext) ++
      condition.leaves c indexes ++
      (groupBy.getD []).flatMap Leaf.ofColumn ++
      within.flatMap Leaf.ofOrderTerm ++
      having.leaves c indexes ++
      order.flatMap Leaf.ofOrderTerm ++
      Leaf.ofOptions options ++
      facets.flatMap Leaf.ofFacet

end

/-- The check that a value can be written out supplies nothing. -/
@[simp] theorem Condition.leaves_showing (c : Connection) (indexes : List Index) (v : Value)
    (condition : Condition) :
    (showing v condition).leaves c indexes = condition.leaves c indexes := by
  rw [showing]
  split
  · rfl
  · simp [leaves, leavesAll]

namespace Leaf

variable (c : Connection)

/-- What the cells of a row supply. -/
def ofCells (indexes : List Index) (cells : List (Value × Value)) : List Leaf :=
  cells.flatMap fun (column, v) => ofValue indexes column v

/-- What storing rows supplies in front of them. -/
def ofStoreHead (target : Value) (columns : List Value) : List Leaf :=
  .quoted target.display :: columns.map fun column => .quoted column.display

/-- What storing one row supplies. -/
def ofStore (target : Value) : Value → List Leaf
  | .map cells => ofStoreHead target (cells.map Prod.fst) ++ ofCells (c.knownIndex target) cells
  | _ => []

/-- What a row of a batch supplies. -/
def ofBatchRow (target : Value) (columns : List Value) (row : Value) : List Leaf :=
  match row.elements? with
  | some values =>
    if values.length = columns.length then ofCells (c.knownIndex target) (columns.zip values)
    else []
  | none => []

/-- What storing several rows supplies. -/
def ofBatch (target columns rows : Value) : List Leaf :=
  match columns.elements?, rows.elements? with
  | some columns, some rows =>
    ofStoreHead target columns ++ rows.flatMap (ofBatchRow c target columns)
  | _, _ => []

/-- What the condition on the rows of an index supplies. -/
def ofRowCondition (target tree : Value) : List Leaf :=
  (Condition.ofValue tree).leaves c (c.knownIndex target)

/-- What named options supply. -/
def ofOptionMapping (options : Value) : List Leaf :=
  if !options.truthy then []
  else match options with
    | .map pairs => ofOptions (pairs.map fun (name, v) => (name.display, v))
    | _ => []

/-- What changing columns of rows supplies. -/
def ofUpdate (target cells tree options : Value) : List Leaf :=
  match cells with
  | .map cells =>
    .quoted target.display ::
      (cells.flatMap (fun (column, v) =>
        .quoted column.display :: ofValue (c.knownIndex target) column v) ++
      (ofRowCondition c target tree ++ ofOptionMapping options))
  | _ => []

/-- What deleting rows supplies. -/
def ofDelete (target tree : Value) : List Leaf :=
  .quoted target.display :: ofRowCondition c target tree

/-- The documents of a call. -/
def ofDocuments (source : Value) : List Leaf := (source.sequence?.getD [source]).map .bound

/-- The options of a call. -/
def ofCallOptions (options : Value) : List Leaf :=
  if !options.truthy then []
  else match options with
    | .map pairs => pairs.flatMap fun (name, v) => ofPlain v ++ [.verbatim name.display]
    | _ => []

/-- What the call for excerpts supplies. -/
def ofSnippets (target source query options : Value) : List Leaf :=
  ofDocuments source ++ .bound target :: .bound query :: ofCallOptions options

end Leaf

/-- What a request supplies, the parameters of its caller first. The call for keywords is not
laid out in order. -/
def Connection.leaves? (c : Connection) : Request → Option (List Leaf)
  | .build query params =>
    (Query.ofValue query).toOption.map fun q =>
      Leaf.ofCaller params ++ ((Selection.ofQuery q).leaves c ++ Leaf.ofShowMeta c q.showMeta)
  | .condition tree names params =>
    names.elements?.map fun names => Leaf.ofCaller params ++
      (Condition.ofValue tree).leaves c (c.known (names.filterMap Value.text?))
  | .store _ target cells params => some (Leaf.ofCaller params ++ Leaf.ofStore c target cells)
  | .batch _ target names rows params =>
    some (Leaf.ofCaller params ++ Leaf.ofBatch c target names rows)
  | .update target cells tree params options =>
    some (Leaf.ofCaller params ++ Leaf.ofUpdate c target cells tree options)
  | .delete target tree params => some (Leaf.ofCaller params ++ Leaf.ofDelete c target tree)
  | .truncate target => some [.quoted target.display]
  | .snippets target source query options params =>
    some (Leaf.ofCaller params ++ Leaf.ofSnippets target source query options)
  | _ => none

end SearchSql

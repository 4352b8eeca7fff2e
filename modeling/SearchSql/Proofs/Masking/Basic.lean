import Mathlib
import SearchSql.Connection.Request

/-!
# Requests without their data

A request has scalars in two kinds of places: where a text of the statement is made of
them (names, operators, raw fragments, words), and where a value is wanted. Masking
replaces every scalar of the second kind by the empty text and leaves the rest alone, so
two requests that differ only in their data become equal.

## Main definitions

* `Value.masked` — a value without its scalars.
* `Value.maskedCondition`, `Clauses.masked` — a condition and a query without their data.
* `Request.masked` — a request without its data.
-/
namespace SearchSql

mutual

/-- A value in which every scalar is replaced by the empty text. Raw fragments stay, and so
do the keys of mappings. -/
def Value.masked : Value → Value
  | .bool _ | .int _ | .float _ | .text _ | .bytes _ => .text ""
  | .list items => .list (Value.maskedAll items)
  | .tuple items => .tuple (Value.maskedAll items)
  | .set items => .set (Value.maskedAll items)
  | .map entries => .map (Value.maskedPairs entries)
  | .query q => .query (Clauses.masked q)
  | v => v

/-- Values without their scalars. -/
def Value.maskedAll : List Value → List Value
  | [] => []
  | v :: rest => v.masked :: Value.maskedAll rest

/-- The pairs of a mapping, without the scalars in its values. -/
def Value.maskedPairs : List (Value × Value) → List (Value × Value)
  | [] => []
  | (key, v) :: rest => (key, v.masked) :: Value.maskedPairs rest

/-- Named values without their scalars. -/
def Value.maskedNamed : List (String × Value) → List (String × Value)
  | [] => []
  | (name, v) :: rest => (name, v.masked) :: Value.maskedNamed rest

/-- A condition without the scalars that columns are compared with. -/
def Value.maskedCondition : Value → Value
  | .map entries => .map (Value.maskedPairs entries)
  | .list items => .list (Value.maskedForm items)
  | .tuple items => .tuple (Value.maskedForm items)
  | v => v

/-- A condition in operator form without the scalars that columns are compared with. The
operands of AND, OR and NOT are conditions. All others start with a column; behind the
values of a membership and the patterns of a comparison nothing is compared. -/
def Value.maskedForm : List Value → List Value
  | .text token :: operands =>
    .text token :: match Operator.ofKeyword? (Operator.normalize token) with
      | some .and | some .or | some .not => Value.maskedConditions operands
      | some .between | some .notBetween | none => Value.maskedOperands operands
      | some _ => Value.maskedSecond operands
  | items => items

/-- Conditions without the scalars that columns are compared with. -/
def Value.maskedConditions : List Value → List Value
  | [] => []
  | v :: rest => v.maskedCondition :: Value.maskedConditions rest

/-- A column, and operands without their scalars. -/
def Value.maskedOperands : List Value → List Value
  | [] => []
  | column :: operands => column :: Value.maskedAll operands

/-- A column, and a second operand without its scalars. -/
def Value.maskedSecond : List Value → List Value
  | column :: operand :: rest => column :: operand.masked :: rest
  | operands => operands

/-- What is searched, without the data of a sub-query. -/
def Value.maskedSource : Value → Value
  | .query q => .query (Clauses.masked q)
  | v => v

/-- Sources without the data of sub-queries. -/
def Value.maskedSources : List Value → List Value
  | [] => []
  | v :: rest => v.maskedSource :: Value.maskedSources rest

/-- Labelled sources without the data of sub-queries. -/
def Value.maskedSourcePairs : List (Value × Value) → List (Value × Value)
  | [] => []
  | (key, v) :: rest => (key, v.maskedSource) :: Value.maskedSourcePairs rest

/-- A collection of sources without the data of sub-queries. -/
def Entries.maskedSources : Entries Value → Entries Value
  | .positional items => .positional (Value.maskedSources items)
  | .keyed pairs => .keyed (Value.maskedSourcePairs pairs)

/-- A query without its data: the full-text query, the values in its conditions and options,
and the data of its sub-queries. -/
def Clauses.masked : Clauses Value → Clauses Value
  | { select, distinct, modifier, source, joins, fulltext, condition, groupBy, within, having,
      orderBy, limit, offset, options, facets, showMeta, params } => {
    select, distinct, modifier, joins, groupBy, within, orderBy, limit, offset, facets, showMeta,
    params
    source := Entries.maskedSources source
    fulltext := fulltext.masked
    condition := condition.maskedCondition
    having := having.maskedCondition
    options := Value.maskedNamed options }

end

namespace Value

/-- A row given as a mapping of columns to values, without its scalars. -/
def maskedCells : Value → Value
  | .map cells => .map (maskedPairs cells)
  | v => v

/-- A row given as a collection of values, without its scalars. -/
def maskedRow : Value → Value
  | .list cells => .list (maskedAll cells)
  | .tuple cells => .tuple (maskedAll cells)
  | .set cells => .set (maskedAll cells)
  | v => v

/-- Rows without their scalars. -/
def maskedRows : Value → Value
  | .list rows => .list (rows.map maskedRow)
  | .tuple rows => .tuple (rows.map maskedRow)
  | .set rows => .set (rows.map maskedRow)
  | v => v

/-- A value that describes a query, as the query without its data. -/
def maskedQuery (v : Value) : Value :=
  match Query.ofValue v with
  | .ok q => .query q.masked
  | .error _ => v

end Value

/-- A request without its data. -/
def Request.masked : Request → Request
  | .build query params => .build query.maskedQuery params
  | .condition tree names params => .condition tree.maskedCondition names params
  | .store how target cells params => .store how target cells.maskedCells params
  | .batch how target names rows params => .batch how target names rows.maskedRows params
  | .update target cells tree params options =>
    .update target cells.maskedCells tree.maskedCondition params options.maskedCells
  | .delete target tree params => .delete target tree.maskedCondition params
  | .snippets target source query options params =>
    .snippets target.masked source.masked query.masked options.maskedCells params
  | .keywords target text statistics params =>
    .keywords target.masked text.masked statistics params
  | r => r

end SearchSql

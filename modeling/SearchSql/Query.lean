import SearchSql.Reading

/-!
# Reading a query

A query is a mapping of clause keywords to values. Each clause has a shape that is
checked here; what the values in it mean is left to the clauses themselves.

## Main definitions

* `Query.ofValue` — the query that a value describes, or the keywords of the clauses
  that do not fit.
-/

namespace SearchSql.Query

open Reading

/-- The keywords of clauses, in the order of a statement. -/
def keywords : List String := Clauses.empty.toPairs.map Prod.fst

/-- A row count: a text is kept as it is, and so is an integer; whole numbers of other kinds,
and octets where they denote an integer, count as that integer. Other octets are texts. -/
def count : Value → Reading Count
  | .text s => .fits (.text s)
  | v =>
    match integerOf? v, textOf? v with
    | some n, _ => .fits (.number n)
    | none, some s => .fits (.text s)
    | none, none => failure

/-- A grouping: a list of columns or a text. -/
def grouping (v : Value) : Reading (Grouping Value) :=
  match textOf? v with
  | some s => .fits (.text s)
  | none => (items anything v).map .columns

/-- The query that the pairs of a mapping describe. -/
def ofMapping (data : Mapping) : Reading Query :=
  let clauses := Clauses.mk
    <$> defaulting "SELECT" entries (.positional []) data
    <*> defaulting "DISTINCT" flag false data
    <*> defaulting "SELECT_OPTION" (optional text) none data
    <*> defaulting "FROM" entries (.positional []) data
    <*> defaulting "JOIN" (items anything) [] data
    <*> defaulting "MATCH" anything .null data
    <*> defaulting "WHERE" anything .null data
    <*> defaulting "GROUP_BY" grouping (.columns []) data
    <*> defaulting "WITHIN" (named anything) [] data
    <*> defaulting "HAVING" anything .null data
    <*> defaulting "ORDER_BY" (named anything) [] data
    <*> defaulting "LIMIT" (optional count) none data
    <*> defaulting "OFFSET" (optional count) none data
    <*> defaulting "OPTION" (named anything) [] data
    <*> defaulting "FACET" entries (.positional []) data
    <*> defaulting "SHOW_META" anything .null data
    <*> defaulting "PARAMS" (named anything) [] data
  (fun q _ => q) <$> clauses <*> noOthers keywords data

/-- The query that a value describes. Only the clause is reported of a place. -/
def ofValue : Value → Checked Query
  | .query q => .ok q
  | .map data =>
    match ofMapping data with
    | .fits q => .ok q
    | .fails places => (Reading.fails (places.map (List.take 1)) : Reading Query).toChecked
  | _ => (failure : Reading Query).toChecked

end SearchSql.Query

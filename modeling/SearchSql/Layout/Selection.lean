import SearchSql.Layout.Clause
import SearchSql.Selection.OfQuery

/-!
# Layout of conditions and selections

A condition is laid out for the indexes whose columns it compares; a nested selection
takes the indexes from its own sources. Operands of a connective stand in parentheses,
so a condition means the same wherever it stands.

## Main definitions

* `Condition.layout` — a condition.
* `Selection.layout` — a selection without the statement for its statistics.
* `Layout.ofFilter` — the clause that keeps rows.
-/

namespace SearchSql

/-- A keyword that may be denied. -/
def deny (negated : Bool) (keyword : String) : String :=
  if negated then "NOT " ++ keyword else keyword

namespace Layout

variable (c : Connection)

/-- Several quoted columns with commas between them. -/
def quotedColumns (columns : List Value) : String := ", ".intercalate (columns.map c.quoteValue)

/-- Membership of a column in some values; a single value is compared. -/
def ofMembership (negated : Bool) (column : Value) : List Layout → Layout
  | [] => []
  | [operand] => .text (c.quoteValue column ++ if negated then "<>" else "=") :: operand
  | operands =>
    enclose (c.quoteValue column ++ " " ++ deny negated "IN" ++ " (") (join ", " operands) ")"

/-- Membership of several columns in some rows. -/
def ofRows (negated : Bool) (columns : List Value) (rows : List Layout) : Layout :=
  enclose ("(" ++ quotedColumns c columns ++ ") " ++ deny negated "IN" ++ " (") (join ", " rows) ")"

/-- Membership of columns in the result of a selection. -/
def ofSelected (negated : Bool) (columns : List Value) (selection : Layout) : Layout :=
  enclose ("(" ++ quotedColumns c columns ++ ") " ++ deny negated "IN" ++ " (") selection ")"

/-- Patterns that a column matches, all of them or any of them. -/
def ofPatterns (negated any : Bool) (column : Value) (escape : Option Value)
    (patterns : List Value) : Layout :=
  let table := escape.getD (Like.tableValue c.settings.likeEscape)
  join (if any then " OR " else " AND ") (patterns.map fun pattern =>
    .text (c.quoteValue column ++ " " ++ deny negated "LIKE" ++ " ") :: ofPattern table pattern)

/-- The value on the right of a comparison, which is not coerced. -/
def ofCompared : Value → Layout
  | .null => [.text "NULL"]
  | v => ofPlain v

/-- Conditions on several columns; a single one needs no parentheses. -/
def ofRecord : List Layout → Layout
  | [entry] => entry
  | entries => connect "AND" entries

/-- The clause that keeps rows: the full-text query stands in front of the condition. -/
def ofFilter (fulltext : Value) (isOmitted : Bool) (condition : Layout) : Layout :=
  match fulltext with
  | .null => after "WHERE " condition
  | v =>
    if isOmitted then after "WHERE " (ofFulltext v)
    else after "WHERE " (connect "AND" [ofFulltext v, condition])

end Layout

/-- Whether no condition was given. -/
def Condition.isOmitted : Condition → Bool
  | .omitted => true
  | _ => false

open Layout

mutual

/-- A condition on columns of some indexes. -/
def Condition.layout (c : Connection) (indexes : List Index) : Condition → Layout
  | .omitted => []
  | .always => []
  | .never => [.text "0=1"]
  | .verbatim sql => ofText sql
  | .connected connective operands =>
    connect connective.word (Condition.layouts c indexes operands)
  | .negation operand =>
    let inner := operand.layout c indexes
    if inner.isEmpty then [] else enclose "NOT (" inner ")"
  | .record entries => ofRecord (Condition.layouts c indexes entries)
  | .isNull column => [.text (c.quoteValue column ++ " IS NULL")]
  | .equals column operand =>
    .text (c.quoteValue column ++ "=") :: ofValue indexes column operand
  | .between negated column low high =>
    .text (c.quoteValue column ++ " " ++ deny negated "BETWEEN" ++ " ") ::
      ofValue indexes column low ++ .text " AND " :: ofValue indexes column high ++ naming [column]
  | .among negated column operands =>
    ofMembership c negated column (operands.map (ofChecked indexes column)) ++ naming [column]
  | .amongRows negated columns rows =>
    ofRows c negated columns (rows.map fun row =>
      enclose "(" (join ", " (columns.zipWith (ofChecked indexes) row)) ")") ++ naming columns
  | .amongSelected negated columns selection =>
    ofSelected c negated columns (selection.layout c) ++ naming columns
  | .like negated any column escape patterns =>
    naming [column] ++ ofPatterns c negated any column escape patterns
  | .compared operator column operand =>
    naming [column] ++ .text (c.quoteValue column ++ " " ++ operator ++ " ") :: ofCompared operand
  | .malformed f => [.fault f]

/-- The layouts of several conditions. -/
def Condition.layouts (c : Connection) (indexes : List Index) : List Condition → List Layout
  | [] => []
  | condition :: rest => condition.layout c indexes :: Condition.layouts c indexes rest

/-- What is searched. -/
def Source.layout (c : Connection) : Source → Layout
  | .index name label => ofLabeled c " " name label
  | .named name label => ofLabeled c " " name label
  | .raw sql params label => ofRawLabeled c " " sql params label
  | .selection selection label => enclose "(" (selection.layout c) (") " ++ c.quote label)
  | .unwritable => [.fault (.misuse .meaningless)]

/-- The layouts of several sources. -/
def Source.layouts (c : Connection) : List Source → List Layout
  | [] => []
  | source :: rest => source.layout c :: Source.layouts c rest

/-- A selection, with the parameters that its caller has bound. -/
def Selection.layout (c : Connection) : Selection → Layout
  | { params, isJoined, distinct, modifier, fields, sources, fulltext, condition, groupBy, within,
      having, order, limit, offset, options, facets } =>
    let names := sources.filterMap Source.indexName?
    let indexes := c.known names
    .merge params :: if isJoined then [.fault (.unsupportedClause "JOIN")] else
      joinPresent c.settings.separator [
        .text ((if distinct then "SELECT DISTINCT " else "SELECT ") ++
          modifier.elim "" (· ++ " ")) :: ofFields c fields,
        if sources.isEmpty then []
        else .indexes names :: .text "FROM " :: join ", " (Source.layouts c sources),
        ofFilter fulltext condition.isOmitted (condition.layout c indexes),
        groupBy.elim [] fun columns => .text "GROUP BY " :: ofColumns c columns,
        ofWithin c within,
        after "HAVING " (having.layout c indexes),
        ofOrder c order,
        ofWindow c limit offset,
        ofOptions options,
        ofFacets c facets]

end

end SearchSql

import SearchSql.Condition.Operator
import SearchSql.Fault

/-!
# Selections and conditions

The structure of a SELECT statement after its parts have been read: what is a name,
what is its label, which form a condition has. Nothing here depends on a dialect, a
schema or the settings. A part that cannot be read keeps its place as a fault, so that
the first fault in the order of the statement is the one reported.

## Main definitions

* `Field`, `ListedColumn`, `OrderTerm`, `Facet` — the parts of clauses.
* `Condition`, `Source`, `Selection` — conditions, what is searched, and statements.
-/

namespace SearchSql

/-- A field of a result or of a facet. -/
inductive Field where
  /-- A column or an expression, with a label perhaps. -/
  | named (name : String) (label : Option String)
  /-- A raw fragment, with a label perhaps. -/
  | raw (sql : String) (params : Mapping) (label : Option String)
  /-- A field that cannot be written out. -/
  | unwritable

/-- A column of a list. -/
inductive ListedColumn where
  /-- A column or an expression. -/
  | named (name : String)
  /-- A raw fragment. -/
  | raw (sql : String) (params : Mapping)
  /-- A column that cannot be written out. -/
  | unwritable

/-- A part of an ordering. -/
inductive OrderTerm where
  /-- A column with a direction. -/
  | column (name : String) (direction : Direction)
  /-- A raw fragment. -/
  | raw (sql : String) (params : Mapping)
  /-- A part that cannot be written out. -/
  | unwritable

/-- A facet: fields, an order and a window of rows. -/
structure Facet where
  /-- The fields; all columns if empty. -/
  fields : List Field
  /-- The order of the rows. -/
  order : Checked (List OrderTerm)
  /-- How many rows are returned. -/
  limit : Value
  /-- How many rows are skipped. -/
  offset : Value

/-- What combines conditions. -/
inductive Connective where
  /-- All hold. -/
  | and
  /-- Some hold. -/
  | or
  deriving DecidableEq, Repr

/-- The word for a connective. -/
def Connective.word : Connective → String
  | .and => "AND"
  | .or => "OR"

mutual

/-- A condition on rows or groups. Columns are given by values, whose text is the name. -/
inductive Condition where
  /-- No condition was given. -/
  | omitted
  /-- A condition that always holds and is not written. -/
  | always
  /-- A condition that never holds. -/
  | never
  /-- A condition in the query language. -/
  | verbatim (sql : String)
  /-- Conditions combined by a word. -/
  | connected (connective : Connective) (operands : List Condition)
  /-- A condition that is denied. -/
  | negation (operand : Condition)
  /-- Conditions on several columns that all hold. -/
  | record (entries : List Condition)
  /-- A column has no value. -/
  | isNull (column : Value)
  /-- A column has a value. -/
  | equals (column operand : Value)
  /-- A column lies between two bounds. -/
  | between (negated : Bool) (column low high : Value)
  /-- A column has one of some values. -/
  | among (negated : Bool) (column : Value) (operands : List (Checked Value))
  /-- Columns together have one of some rows of values. -/
  | amongRows (negated : Bool) (columns : List Value) (rows : List (List (Checked Value)))
  /-- Columns together occur in the result of a selection. -/
  | amongSelected (negated : Bool) (columns : List Value) (selection : Selection)
  /-- A column matches patterns, all of them or any of them. -/
  | like (negated any : Bool) (column : Value) (escape : Option Value) (patterns : List Value)
  /-- A column is compared with a value. -/
  | compared (operator : String) (column operand : Value)
  /-- A condition that cannot be read. -/
  | malformed (fault : Fault)

/-- What is searched. -/
inductive Source where
  /-- An index, with a label perhaps. -/
  | index (name : String) (label : Option String)
  /-- Something else that is named, with a label perhaps. -/
  | named (name : String) (label : Option String)
  /-- A raw fragment, with a label perhaps. -/
  | raw (sql : String) (params : Mapping) (label : Option String)
  /-- The result of a selection, with its label. -/
  | selection (selection : Selection) (label : String)
  /-- A source that cannot be written out. -/
  | unwritable

/-- A SELECT statement. -/
structure Selection where
  /-- Parameters that the caller has bound. -/
  params : Mapping
  /-- Whether indexes are joined, which cannot be done. -/
  isJoined : Bool
  /-- Whether equal rows are merged. -/
  distinct : Bool
  /-- A word after the keyword SELECT. -/
  modifier : Option String
  /-- The fields; all columns if empty. -/
  fields : List Field
  /-- What is searched. -/
  sources : List Source
  /-- The full-text query. -/
  fulltext : Value
  /-- The condition on rows. -/
  condition : Condition
  /-- The columns that rows are grouped by. -/
  groupBy : Option (List ListedColumn)
  /-- The order of rows within a group. -/
  within : List OrderTerm
  /-- The condition on groups. -/
  having : Condition
  /-- The order of the result. -/
  order : List OrderTerm
  /-- How many rows are returned. -/
  limit : Value
  /-- How many rows are skipped. -/
  offset : Value
  /-- Named options of the search. -/
  options : List (String × Value)
  /-- Facets computed beside the result. -/
  facets : List (Checked Facet)

end

/-- The name of the index that a source is. -/
def Source.indexName? : Source → Option String
  | .index name _ => some name
  | _ => none

/-- The names of the indexes among the sources of a selection, in order. -/
def Selection.indexNames (s : Selection) : List String := s.sources.filterMap Source.indexName?

end SearchSql

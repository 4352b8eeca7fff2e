import SearchSql.Layout.Caller
import SearchSql.Query
import SearchSql.Statement.Call
import SearchSql.Statement.Modification

/-!
# Compiled statements

The statements and clauses that a connection writes. Each is written by itself:
parameters are numbered from those that its caller has bound.

## Main definitions

* `Compiled` — a statement with its parameters.
* `Connection.compile` — a layout as a statement.
* `Connection.build`, `Connection.entities` — a query, and the indexes it searches.
* `Connection.condition`, `Connection.columns`, `Connection.order`, `Connection.window` — parts
  of statements.
-/

namespace SearchSql

/-- A statement ready to be sent. -/
structure Compiled where
  /-- The text, with names for parameters. -/
  sql : String
  /-- The parameters. -/
  params : Mapping
  /-- The name of the dialect. -/
  dialect : String

/-- The parameters of a statement with those that are only known when it is sent. -/
def Compiled.merged (compiled : Compiled) (late : Value) : Checked Mapping :=
  match late with
  | .map pairs => .ok (Mapping.merge compiled.params pairs)
  | _ => .error (.misuse .kind)

namespace Connection

variable (c : Connection)

/-- Write a layout after the parameters of a caller. -/
def compile (params : Value) (l : Layout) : Checked Compiled := do
  let (sql, p) ← (Layout.ofCaller params ++ l).render c.settings.paramStem .empty
  return ⟨sql, p.entries, c.dialect.name⟩

/-- The layout of a query, with the statement that shows its statistics. -/
def queryLayout (q : Query) : Layout :=
  (Selection.ofQuery q).layout c ++
    Layout.after c.settings.querySeparator (Layout.ofShowMeta c q.showMeta)

/-- The statement for a query. -/
def build (q : Query) (params : Value) : Checked Compiled := c.compile params (c.queryLayout q)

/-- The names of the indexes that the statement for a query searches, sub-queries included,
as far as it can be written. -/
def entities (q : Query) (params : Value) : List String :=
  (Layout.ofCaller params ++ c.queryLayout q).indexes

/-- A condition by itself, for the columns of some indexes. -/
def condition (condition : Value) (indexes : Value) (params : Value) : Checked Compiled :=
  c.compile params <| match indexes.elements? with
    | some names => (Condition.ofValue condition).layout c (c.known (names.filterMap Value.text?))
    | none => [.fault (.misuse .kind)]

/-- A text that is written without parameters. -/
def clause (l : Layout) : Checked String := do
  let (sql, _) ← l.render c.settings.paramStem .empty
  return sql

/-- A list of columns. -/
def columns (v : Value) : Checked String := do
  c.clause (Layout.ofColumns c (← ListedColumn.listOf v))

/-- The order of a result. -/
def order (v : Value) : Checked String := do
  c.clause (Layout.ofOrder c (← OrderTerm.listOf v))

/-- The rows that are returned. -/
def window (limit offset : Value) : Checked String := c.clause (Layout.ofWindow c limit offset)

/-- A text with an order and the rows that are returned after it, or the text as it was
given if neither is. -/
def orderAndWindow (sql order limit offset : Value) : Checked Value := do
  let terms ← OrderTerm.listOf order
  match [Layout.ofOrder c terms, Layout.ofWindow c limit offset].filter (!·.isEmpty) with
  | [] => return sql
  | clauses =>
    let text ← sql.shown
    return .text (← c.clause (Layout.join c.settings.separator ([.text text] :: clauses)))

/-- The call for the keywords of a text. The index is bound before the text. -/
def keywords (index text : Value) (statistics : Bool) (params : Value) : Checked Compiled := do
  let stem := c.settings.paramStem
  let (_, start) ← (Layout.ofCaller params).render stem .empty
  let afterIndex := start.bind stem index
  return ⟨Layout.keywordsText (afterIndex.nextName stem) (start.nextName stem) statistics,
    (afterIndex.bind stem text).entries, c.dialect.name⟩

end Connection

end SearchSql

import SearchSql.Connection.Compiled

/-!
# Requests to a connection

What can be asked of a connection, and the answers.

## Main definitions

* `Request` — what can be asked.
* `Answer`, `Connection.answer` — the answers.
-/

namespace SearchSql

/-- What can be asked of a connection. -/
inductive Request where
  /-- The statement for a query. -/
  | build (query params : Value)
  /-- A condition by itself. -/
  | condition (condition indexes params : Value)
  /-- A list of columns. -/
  | columns (columns : Value)
  /-- The order of a result. -/
  | order (columns : Value)
  /-- The rows that are returned. -/
  | window (limit offset : Value)
  /-- A text with an order and the rows that are returned. -/
  | orderAndWindow (sql order limit offset : Value)
  /-- Storing one row. -/
  | store (store : Store) (index columns params : Value)
  /-- Storing several rows. -/
  | batch (store : Store) (index columns rows params : Value)
  /-- Changing columns of rows. -/
  | update (index columns condition params options : Value)
  /-- Deleting rows. -/
  | delete (index condition params : Value)
  /-- Deleting all rows. -/
  | truncate (index : Value)
  /-- The call for excerpts of documents. -/
  | snippets (index source query options params : Value)
  /-- The call for keywords. -/
  | keywords (index text statistics params : Value)
  /-- A quoted name. -/
  | quote (name : Value)
  /-- A text as a full-text query. -/
  | escapeMatch (text : Value)
  /-- A known index. -/
  | index (name : Value)
  /-- The identifier of the row that was stored last. -/
  | lastInsertId

/-- The answer of a connection. -/
inductive Answer where
  /-- A statement. -/
  | statement (compiled : Compiled)
  /-- A statement, and the indexes that it searches. -/
  | selection (compiled : Compiled) (entities : List String)
  /-- A value that is written as it is. -/
  | text (v : Value)
  /-- An index, if it is known. -/
  | index (index : Option Index)

namespace Connection

variable (c : Connection)

/-- The answer to a request. -/
def answer : Request → Checked Answer
  | .build query params => do
    let q ← Query.ofValue query
    return .selection (← c.build q params) (c.entities q params)
  | .condition condition indexes params =>
    return .statement (← c.condition condition indexes params)
  | .columns v => return .text (.text (← c.columns v))
  | .order v => return .text (.text (← c.order v))
  | .window limit offset => return .text (.text (← c.window limit offset))
  | .orderAndWindow sql order limit offset =>
    return .text (← c.orderAndWindow sql order limit offset)
  | .store store index columns params =>
    return .statement (← c.compile params (Layout.ofStore c store index columns))
  | .batch store index columns rows params =>
    return .statement (← c.compile params (Layout.ofBatch c store index columns rows))
  | .update index columns condition params options =>
    return .statement (← c.compile params (Layout.ofUpdate c index columns condition options))
  | .delete index condition params =>
    return .statement (← c.compile params (Layout.ofDelete c index condition))
  | .truncate index => return .statement (← c.compile .null (Layout.ofTruncate c index))
  | .snippets index source query options params =>
    return .statement (← c.compile params (Layout.ofSnippets index source query options))
  | .keywords index text statistics params =>
    return .statement (← c.keywords index text statistics.truthy params)
  | .quote name => return .text (.text (c.quote (← name.shown)))
  | .escapeMatch (.text s) => return .text (.text (Match.escape s))
  | .escapeMatch _ => throw (.misuse .kind)
  | .index name =>
    return .index (c.snapshot.bind fun snapshot => name.text?.bind snapshot.index?)
  | .lastInsertId => throw (.unsupportedMethod "Connection.get_last_insert_id")

end Connection

end SearchSql

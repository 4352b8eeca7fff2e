import SearchSql.Layout.Selection

/-!
# Statements that change an index

Rows are inserted or replaced one by one or in batches, updated and deleted. Values are
coerced to the columns of the index that is changed.

## Main definitions

* `Store` — whether rows are inserted or replaced.
* `Layout.ofStore`, `Layout.ofBatch` — one row, and several.
* `Layout.ofUpdate`, `Layout.ofDelete`, `Layout.ofTruncate` — the other changes.
-/

namespace SearchSql

/-- How rows are stored. -/
inductive Store where
  /-- As new rows. -/
  | insert
  /-- In place of rows with the same identifier. -/
  | replace
  deriving DecidableEq, Repr

/-- The keyword for a way of storing. -/
def Store.keyword : Store → String
  | .insert => "INSERT"
  | .replace => "REPLACE"

namespace Layout

variable (c : Connection)

/-- The beginning of a statement that stores rows. -/
def storeHead (store : Store) (index : Value) (columns : List Value) : String :=
  store.keyword ++ " INTO " ++ c.quoteValue index ++ " (" ++ quotedColumns c columns ++ ") VALUES "

/-- One row in parentheses. -/
def ofCells (indexes : List Index) (cells : List (Value × Value)) : Layout :=
  enclose "(" (join ", " (cells.map fun (column, v) => ofCell indexes column v)) ")"

/-- Storing one row, given as a mapping of columns to values. -/
def ofStore (store : Store) (index : Value) : Value → Layout
  | .map cells =>
    .text (storeHead c store index (cells.map Prod.fst)) ::
      ofCells (c.knownIndex index) cells ++ naming (index :: cells.map Prod.fst)
  | _ => [.fault (.misuse .notMapping)]

/-- A row of a batch. It has one value for each column. As for a row by itself, the name of
the index is checked behind it. -/
def ofBatchRow (store : Store) (index : Value) (columns : List Value) (row : Value) : Layout :=
  match row.elements? with
  | none => [.fault (.misuse .kind)]
  | some values =>
    if values.length = columns.length then
      ofCells (c.knownIndex index) (columns.zip values) ++ naming [index]
    else [.fault (.rowWidth store.keyword index.display values.length columns.length)]

/-- Storing several rows. -/
def ofBatch (store : Store) (index columns rows : Value) : Layout :=
  match columns.elements?, rows.elements? with
  | some columns, some rows =>
    .text (storeHead c store index columns) ::
      join ", " (rows.map (ofBatchRow c store index columns)) ++ naming (index :: columns)
  | _, _ => [.fault (.misuse .kind)]

/-- The clause that keeps the rows of an index. -/
def ofRowCondition (index condition : Value) : Layout :=
  after "WHERE " ((Condition.ofValue condition).layout c (c.knownIndex index))

/-- Named options, given as a mapping. -/
def ofOptionMapping (options : Value) : Layout :=
  if !options.truthy then []
  else match options with
    | .map pairs =>
      ofOptions (pairs.map fun (name, v) => (name.display, v)) ++ naming (pairs.map Prod.fst)
    | _ => [.fault (.misuse .notMapping)]

/-- Changing columns of rows. -/
def ofUpdate (index columns condition options : Value) : Layout :=
  match columns with
  | .map cells =>
    joinPresent " " [
      .text ("UPDATE " ++ c.quoteValue index ++ " SET ") ::
        join ", " (cells.map fun (column, v) =>
          .text (c.quoteValue column ++ "=") :: ofCell (c.knownIndex index) column v) ++
            naming [index],
      ofRowCondition c index condition,
      ofOptionMapping options]
  | _ => [.fault (.misuse .notMapping)]

/-- Deleting rows. -/
def ofDelete (index condition : Value) : Layout :=
  joinPresent " " [
    naming [index] ++ [.text ("DELETE FROM " ++ c.quoteValue index)],
    ofRowCondition c index condition]

/-- Deleting all rows. -/
def ofTruncate (index : Value) : Layout :=
  naming [index] ++ [.text ("TRUNCATE RTINDEX " ++ c.quoteValue index)]

end Layout

end SearchSql

import SearchSql.Reading
import SearchSql.Schema.Column

/-!
# Indexes and snapshots

The columns of an index, and the indexes that are known at one time. A name is looked
up in order, so the first of several of one name counts. Knowing an index changes the
values that are bound and nothing else.

## Main definitions

* `Index`, `Snapshot` — columns of an index, and known indexes.
* `Index.column?`, `Snapshot.index?`, `Index.findColumn?` — look-up by name.
* `Snapshot.ofValue` — the snapshot that a value describes.
-/

namespace SearchSql

/-- An index with its columns. -/
structure Index where
  /-- The name of the index. -/
  name : String
  /-- The columns in order. -/
  columns : List Column
  deriving DecidableEq, Repr

/-- The indexes that are known. -/
structure Snapshot where
  /-- The indexes in order. -/
  indexes : List Index
  deriving DecidableEq, Repr

namespace Index

/-- The first column of a name. -/
def column? (index : Index) (name : String) : Option Column :=
  index.columns.find? (·.name == name)

/-- The first column of a name in the first index that has one. -/
def findColumn? (indexes : List Index) (name : String) : Option Column :=
  indexes.findSome? (·.column? name)

/-- The names of the columns. -/
def columnNames (index : Index) : List String := index.columns.map Column.name

end Index

namespace Snapshot

/-- The first index of a name. -/
def index? (snapshot : Snapshot) (name : String) : Option Index :=
  snapshot.indexes.find? (·.name == name)

/-- The names of the indexes. -/
def indexNames (snapshot : Snapshot) : List String := snapshot.indexes.map Index.name

/-- The known indexes among some names, in the order of the names. -/
def known (snapshot : Option Snapshot) (names : List String) : List Index :=
  match snapshot with
  | some snapshot => names.filterMap snapshot.index?
  | none => []

end Snapshot

open Reading

/-- The type that the word in a value stands for. -/
def ColumnType.read : Value → Reading ColumnType
  | .text s => ofOption (ColumnType.ofWord? s)
  | _ => failure

/-- The column that a value describes. -/
def Column.read : Value → Reading Column
  | .map data =>
    (fun column _ => column)
      <$> (Column.mk <$> required "name" text data <*> required "type" ColumnType.read data)
      <*> noOthers ["name", "type"] data
  | _ => failure

/-- The index that a value describes. -/
def Index.read : Value → Reading Index
  | .map data =>
    (fun index _ => index)
      <$> (Index.mk <$> required "name" text data
        <*> defaulting "columns" (items Column.read) [] data)
      <*> noOthers ["name", "columns"] data
  | _ => failure

/-- The snapshot that a value describes. -/
def Snapshot.read : Value → Reading Snapshot
  | .map data =>
    (fun snapshot _ => snapshot)
      <$> (Snapshot.mk <$> defaulting "indexes" (items Index.read) [] data)
      <*> noOthers ["indexes"] data
  | _ => failure

/-- The snapshot that a value describes, or the places that do not fit. -/
def Snapshot.ofValue (v : Value) : Checked Snapshot := (Snapshot.read v).toChecked

end SearchSql

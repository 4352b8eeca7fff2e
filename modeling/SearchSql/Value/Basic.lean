/-!
# Values of a request

What callers hand over: scalars, collections, raw fragments of SQL and nested
queries. The kinds stay apart as they were given, since a list, a tuple and a set, or
the integer `1` and the truth value, are written and compared differently.

## Main definitions

* `Entries` — a collection given by position or under keys.
* `Clauses` — the clauses of a query, whose contents are of any type.
* `Value`, `Query` — the values of a request and the queries among them.
* `Mapping` — the pairs of a keyed value in their order.
-/

namespace SearchSql

/-- A collection given by position, or under keys in their order. -/
inductive Entries (α : Type) where
  /-- Items in order. -/
  | positional (items : List α)
  /-- Items under keys. -/
  | keyed (items : List (α × α))

/-- A row count as it was given. -/
inductive Count where
  /-- A number, which may be negative. -/
  | number (n : Int)
  /-- A text, which may hold anything. -/
  | text (s : String)
  deriving DecidableEq, Repr

/-- What a query is grouped by. -/
inductive Grouping (α : Type) where
  /-- A list of columns. -/
  | columns (items : List α)
  /-- Column names separated by commas, or an expression. -/
  | text (s : String)

/-- The clauses of a query. -/
structure Clauses (α : Type) where
  /-- The fields of the result; all columns if empty. -/
  select : Entries α
  /-- Whether equal rows are merged. -/
  distinct : Bool
  /-- A word after the keyword SELECT. -/
  modifier : Option String
  /-- The indexes and sub-queries that are searched. -/
  source : Entries α
  /-- Joined indexes, of which there may be none. -/
  joins : List α
  /-- The full-text query. -/
  fulltext : α
  /-- The condition on rows. -/
  condition : α
  /-- What rows are grouped by. -/
  groupBy : Grouping α
  /-- The order of rows within a group. -/
  within : List (String × α)
  /-- The condition on groups. -/
  having : α
  /-- The order of the result. -/
  orderBy : List (String × α)
  /-- How many rows are returned. -/
  limit : Option Count
  /-- How many rows are skipped. -/
  offset : Option Count
  /-- Named options of the search. -/
  options : List (String × α)
  /-- Facets computed beside the result. -/
  facets : Entries α
  /-- Whether, or for which names, statistics are shown. -/
  showMeta : α
  /-- Parameters that the caller has bound. -/
  params : List (String × α)

/-- A value of a request. -/
inductive Value where
  /-- No value. -/
  | null
  /-- A truth value. -/
  | bool (b : Bool)
  /-- An integer. -/
  | int (n : Int)
  /-- A binary floating-point number. -/
  | float (x : Float)
  /-- A text. -/
  | text (s : String)
  /-- A string of octets. -/
  | bytes (octets : List UInt8)
  /-- A string of octets that may change, and so cannot be a key. -/
  | buffer (octets : List UInt8)
  /-- A list. -/
  | list (items : List Value)
  /-- A sequence of fixed length. -/
  | tuple (items : List Value)
  /-- A set. -/
  | set (items : List Value)
  /-- A mapping, in the order of its keys. -/
  | map (entries : List (Value × Value))
  /-- A fragment of SQL taken as it stands, with the parameters it refers to. -/
  | raw (sql : String) (params : List (Value × Value))
  /-- A nested query. -/
  | query (clauses : Clauses Value)

/-- A query over the values of a request. -/
abbrev Query := Clauses Value

/-- The pairs of a keyed value, in order. -/
abbrev Mapping := List (Value × Value)

instance : Inhabited Value := ⟨.null⟩

/-- The query that selects everything from nowhere. -/
def Clauses.empty : Query where
  select := .positional []
  distinct := false
  modifier := none
  source := .positional []
  joins := []
  fulltext := .null
  condition := .null
  groupBy := .columns []
  within := []
  having := .null
  orderBy := []
  limit := none
  offset := none
  options := []
  facets := .positional []
  showMeta := .null
  params := []

instance : Inhabited Query := ⟨Clauses.empty⟩

namespace Value

/-- Pairs under texts as pairs under values. -/
def ofNamed (pairs : List (String × Value)) : Mapping :=
  pairs.map fun (name, value) => (.text name, value)

/-- A collection as a value. -/
def ofEntries : Entries Value → Value
  | .positional items => .list items
  | .keyed items => .map items

/-- A row count as a value. -/
def ofCount : Option Count → Value
  | none => .null
  | some (.number n) => .int n
  | some (.text s) => .text s

/-- The name of a value's kind. -/
def kind : Value → String
  | .null => "NoneType"
  | .bool _ => "bool"
  | .int _ => "int"
  | .float _ => "float"
  | .text _ => "str"
  | .bytes _ => "bytes"
  | .buffer _ => "bytearray"
  | .list _ => "list"
  | .tuple _ => "tuple"
  | .set _ => "set"
  | .map _ => "dict"
  | .raw _ _ => "Expression"
  | .query _ => "Query"

/-- Whether a value counts as given: neither missing, nor false, nor zero, nor empty. -/
def truthy : Value → Bool
  | .null => false
  | .bool b => b
  | .int n => n != 0
  | .float x => x != 0.0
  | .text s => !s.isEmpty
  | .bytes octets | .buffer octets => !octets.isEmpty
  | .list items | .tuple items | .set items => !items.isEmpty
  | .map entries => !entries.isEmpty
  | .raw _ _ | .query _ => true

/-- The members of a list, a tuple or a set. -/
def members? : Value → Option (List Value)
  | .list items | .tuple items | .set items => some items
  | _ => none

/-- The items of a list or a tuple. -/
def sequence? : Value → Option (List Value)
  | .list items | .tuple items => some items
  | _ => none

/-- The pairs of a mapping. -/
def mapping? : Value → Option Mapping
  | .map entries => some entries
  | _ => none

/-- The text of a value that is a text. -/
def text? : Value → Option String
  | .text s => some s
  | _ => none

end Value

/-- The clauses of a query under their keywords, in the order of a statement. -/
def Clauses.toPairs (q : Query) : List (String × Value) := [
  ("SELECT", Value.ofEntries q.select),
  ("DISTINCT", .bool q.distinct),
  ("SELECT_OPTION", q.modifier.elim .null .text),
  ("FROM", Value.ofEntries q.source),
  ("JOIN", .list q.joins),
  ("MATCH", q.fulltext),
  ("WHERE", q.condition),
  ("GROUP_BY", match q.groupBy with
    | .columns items => .list items
    | .text s => .text s),
  ("WITHIN", .map (Value.ofNamed q.within)),
  ("HAVING", q.having),
  ("ORDER_BY", .map (Value.ofNamed q.orderBy)),
  ("LIMIT", Value.ofCount q.limit),
  ("OFFSET", Value.ofCount q.offset),
  ("OPTION", .map (Value.ofNamed q.options)),
  ("FACET", Value.ofEntries q.facets),
  ("SHOW_META", q.showMeta),
  ("PARAMS", .map (Value.ofNamed q.params))]

/-- The clauses of a query as pairs of keyword and value. -/
def Clauses.toTuples (q : Query) : List Value :=
  q.toPairs.map fun (name, value) => .tuple [.text name, value]

/-- The values met when a value is gone through: the members of a collection, the keys of
a mapping, the characters of a text, the octets of a string of octets, and the clauses of
a query with their keywords. -/
def Value.elements? : Value → Option (List Value)
  | .list items | .tuple items | .set items => some items
  | .map entries => some (entries.map Prod.fst)
  | .text s => some (s.toList.map fun c => .text (String.singleton c))
  | .bytes octets | .buffer octets => some (octets.map fun b => .int b.toNat)
  | .query q => some q.toTuples
  | _ => none

end SearchSql

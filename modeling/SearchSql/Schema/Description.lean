import SearchSql.Schema.Index

/-!
# Indexes from descriptions

A server describes an index by rows that name a column and its type, as mappings or
as sequences. A column stored both as full-text content and as an attribute is listed
twice; it keeps the type of the attribute.

## Main definitions

* `Description.typeOf` — the column type for the word that a server uses.
* `Index.ofDescription` — the index that some rows describe.
-/

namespace SearchSql.Description

/-- The words of servers that differ from the words of column types. -/
def synonyms : List (String × ColumnType) := [
  ("text", .field),
  ("ordinal", .string),
  ("int", .integer),
  ("multi", .mva),
  ("multi64", .mva64)]

/-- The column type for the word that a server uses, in any letter case. Unknown words
stand for texts. -/
def typeOf (word : String) : ColumnType :=
  let word := Text.lowerAscii word
  ((ColumnType.ofWord? word).or (synonyms.lookup word)).getD .string

/-- An item of a row that is not a mapping. -/
def item (row : Value) (position : Nat) : Checked Value :=
  match row with
  | .list items | .tuple items => fromItems items
  | .text s => fromItems (s.toList.map fun c => .text (String.singleton c))
  | .bytes octets | .buffer octets => fromItems (octets.map fun b => .int b.toNat)
  | _ => .error (.misuse .kind)
where
  /-- The item of a sequence. -/
  fromItems (items : List Value) : Checked Value :=
    match items[position]? with
    | some v => .ok v
    | none => .error (.misuse .missingItem)

/-- The value of a row under a key. -/
def cell (row : Mapping) (name : String) : Checked Value :=
  match row.named? name with
  | some v => .ok v
  | none => .error (.misuse .missingKey)

/-- The name and the type in a row. -/
def cells (row : Value) : Checked (Value × Value) := do
  match row with
  | .map data => return (← cell data "Field", ← cell data "Type")
  | row => return (← item row 0, ← item row 1)

/-- The columns found so far, under their names as they were given. -/
abbrev Found := List (Value × Column)

/-- The column found under a name. -/
def Found.get? (name : Value) : Found → Option Column
  | [] => none
  | (key, column) :: rest => if key.sameKey name then some column else Found.get? name rest

/-- Put a column under a name. -/
def Found.put (name : Value) (column : Column) : Found → Found
  | [] => [(name, column)]
  | (key, other) :: rest =>
    if key.sameKey name then (key, column) :: rest else (key, other) :: Found.put name column rest

/-- Take one row into account. Full-text content does not replace an attribute. -/
def step (found : Found) (row : Value) : Checked Found := do
  let (name, word) ← cells row
  let type := typeOf (← word.shown)
  if !name.isKey then throw (.misuse .kind)
  if (found.get? name).isSome && type == .field then return found
  let text ← ((Reading.text name).within "name").toChecked
  return found.put name ⟨text, type⟩

end SearchSql.Description

namespace SearchSql

/-- The index that some rows describe. -/
def Index.ofDescription (name rows : Value) : Checked Index := do
  let some rows := rows.elements? | throw (.misuse .kind)
  let found ← rows.foldlM Description.step []
  let name ← ((Reading.text name).within "name").toChecked
  return ⟨name, found.map Prod.snd⟩

end SearchSql

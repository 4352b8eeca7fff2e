import SearchSql.Label
import SearchSql.Selection.Basic
import SearchSql.Value.Display
import SearchSql.Value.Key

/-!
# Entries of clauses

How the entries of a clause are read: fields and indexes given by position or under a
label, columns in a list or in a text, columns with directions.

## Main definitions

* `Value.entries` — the entries of a value, with the texts among their keys.
* `Field.ofEntry`, `Source.ofText`, `Source.ofDisplay`, `ListedColumn.ofText`,
  `OrderTerm.ofPair`, `OrderTerm.ofEntry` — entries of the clauses.
* `Facet.ofEntry` — one facet.
-/

namespace SearchSql

/-- An entry of a clause: a value, under a text perhaps. -/
abbrev Entry := Option String × Value

/-- The entries of a collection. Keys that are no texts do not count. -/
def Entries.toEntries : Entries Value → List Entry
  | .positional items => items.map (none, ·)
  | .keyed items => items.map fun (key, v) => (key.text?, v)

/-- The entries of a value: the items of a list, the pairs of a mapping, or the value
itself. -/
def Value.entries : Value → List Entry
  | .null => []
  | .map pairs => pairs.map fun (key, v) => (key.text?, v)
  | .list items | .tuple items => items.map (none, ·)
  | v => [(none, v)]

/-- Whether a parenthesis opens in a text. -/
def hasParenthesis (s : String) : Bool := s.toList.contains '('

/-- A text unless it is empty. -/
def nonempty? (s : String) : Option String := if s.isEmpty then none else some s

/-- A text with a label at its end, unless it is an expression. -/
def splitLabel (label? : String → Option (String × String)) (s : String) :
    String × Option String :=
  if hasParenthesis s then (s, none)
  else match label? s with
    | some (name, label) => (name, some label)
    | none => (s, none)

/-- The field that a text names. -/
def Field.ofText (key : Option String) (s : String) : Field :=
  match key with
  | some key => .named s (some key)
  | none =>
    let (name, label) := splitLabel Label.ofField? s
    .named name label

/-- The field of an entry. -/
def Field.ofEntry : Entry → Field
  | (key, .raw sql params) => .raw sql params (key.bind nonempty?)
  | (key, v) => if v.isWritable then .ofText key v.display else .unwritable

/-- The source that a text names. A text with a parenthesis is no index. -/
def Source.ofText (key : Option String) (s : String) : Source :=
  let (name, label) := match key with
    | some key => (s, some key)
    | none => splitLabel Label.ofSource? s
  if hasParenthesis s then .named name label else .index name label

/-- The source that a value other than a text names. -/
def Source.ofDisplay (key : Option String) (v : Value) : Source :=
  if v.isWritable then
    match key with
    | some key => .named v.display (some key)
    | none =>
      let (name, label) := splitLabel Label.ofSource? v.display
      .named name label
  else .unwritable

/-- The names of the indexes among some entries, in order. -/
def indexNames (entries : List Entry) : List String :=
  entries.filterMap fun
    | (key, .text s) => (Source.ofText key s).indexName?
    | _ => none

/-- The columns in a text: an expression, or names with commas between them. -/
def ListedColumn.ofText (s : String) : List ListedColumn :=
  if hasParenthesis s then [.named s]
  else
    let names := (s.toList.splitOn ',').map (Text.trimChars Text.isBlank)
    (names.filter (!·.isEmpty)).map fun name => .named (String.ofList name)

/-- The column that a value names. -/
def ListedColumn.ofValue : Value → ListedColumn
  | .raw sql params => .raw sql params
  | v => if v.isWritable then .named v.display else .unwritable

/-- The columns that a value lists. -/
def ListedColumn.listOf (v : Value) : Checked (List ListedColumn) :=
  match v with
  | .text s => .ok (ofText s)
  | v =>
    match v.elements? with
    | some elements => .ok (elements.map ofValue)
    | none => .error (.misuse .kind)

/-- The part of an ordering that a column and its direction give. -/
def OrderTerm.ofPair (name : String) : Value → OrderTerm
  | .raw sql params => .raw sql params
  | v => .column name (.ofValue v)

/-- The part of an ordering that a column of any kind and its direction give. -/
def OrderTerm.ofEntry (column : Value) : Value → OrderTerm
  | .raw sql params => .raw sql params
  | v => if column.isWritable then .column column.display (.ofValue v) else .unwritable

/-- The ordering that a value describes; there is none for a value that counts as not
given. -/
def OrderTerm.listOf (v : Value) : Checked (List OrderTerm) :=
  if !v.truthy then .ok []
  else match v with
    | .map pairs => .ok (pairs.map fun (name, direction) => ofEntry name direction)
    | _ => .error (.misuse .notMapping)

/-- The entries of the fields of a facet; a value that is no collection is a field. -/
def Facet.fieldEntries : Value → List Entry
  | .null => [(none, .null)]
  | v => v.entries

/-- A facet with the contents of a mapping, and fields that count when the mapping has
none. -/
def Facet.ofMapping (fields : Value) (m : Mapping) : Facet where
  fields := (fieldEntries ((m.named? "select").getD fields)).map Field.ofEntry
  order := OrderTerm.listOf ((m.named? "order").getD .null)
  limit := (m.named? "limit").getD .null
  offset := (m.named? "offset").getD .null

/-- The facet of an entry: fields by themselves, or a mapping under a name. -/
def Facet.ofEntry : Entry → Checked Facet
  | (none, v) => .ok (ofMapping v [])
  | (some key, .map m) => .ok (ofMapping (.text key) m)
  | (some key, v) => .error (.facetNotMapping key v.kind)

end SearchSql

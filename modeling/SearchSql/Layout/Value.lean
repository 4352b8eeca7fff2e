import SearchSql.Connection.Basic
import SearchSql.Escape.Match
import SearchSql.Layout.Basic

/-!
# Layout of values

A value is never written into a statement: a parameter is bound to it, coerced to the
column it belongs to. What is written are the word for no value and raw fragments,
whose parameters are bound with them.

## Main definitions

* `Layout.ofBound` — a single value.
* `Layout.ofValue` — a value of a column, which may have several.
* `Layout.ofCell` — a value beside the name of its column.
* `Layout.ofOption` — the value of an option, which may be nested.
* `Layout.ofShown` — what is laid out for the text of a value.
-/

namespace SearchSql.Layout

/-- A raw fragment with its parameters. -/
def ofRaw (sql : String) (params : Mapping) : Layout := [.merge params, .text sql]

/-- A single value of a column. -/
def ofBound (column : Option Column) : Value → Layout
  | .raw sql params => ofRaw sql params
  | v =>
    match Column.coerce column v with
    | .ok coerced => [.bind coerced]
    | .error f => [.fault f]

/-- A value bound as it is, unless it is a raw fragment. -/
def ofPlain : Value → Layout
  | .raw sql params => ofRaw sql params
  | v => [.bind v]

/-- The column that a value names among some indexes. -/
def columnOf (indexes : List Index) (column : Value) : Option Column :=
  column.text?.bind (Index.findColumn? indexes)

/-- Several values of a column. A JSON column has them as one. -/
def ofMembers (column : Option Column) (v : Value) (items : List Value) : Layout :=
  match column with
  | some ⟨_, .json⟩ => ofBound column v
  | _ => enclose "(" (join "," (items.map (ofBound column))) ")"

/-- A value of a column. -/
def ofValue (indexes : List Index) (column : Value) : Value → Layout
  | .null => [.text "NULL"]
  | .raw sql params => ofRaw sql params
  | .query _ => [.fault (column.faultShowing (.queryAsValue column.display))]
  | .list items => ofMembers (columnOf indexes column) (.list items) items
  | .tuple items => ofMembers (columnOf indexes column) (.tuple items) items
  | .set items => ofMembers (columnOf indexes column) (.set items) items
  | v => ofBound (columnOf indexes column) v

/-- A value of a column whose name is written beside it. -/
def ofCell (indexes : List Index) (column v : Value) : Layout :=
  naming [column] ++ ofValue indexes column v

/-- A value of a column, unless there is none by some fault. -/
def ofChecked (indexes : List Index) (column : Value) : Checked Value → Layout
  | .ok v => ofValue indexes column v
  | .error f => [.fault f]

mutual

/-- The value of an option: collections are written in parentheses, with the names of
their parts. -/
def ofOption : Value → Layout
  | .raw sql params => ofRaw sql params
  | .map pairs => enclose "(" (join ", " (ofOptionPairs pairs)) ")"
  | .list items => enclose "(" (join ", " (ofOptionItems items)) ")"
  | .tuple items => enclose "(" (join ", " (ofOptionItems items)) ")"
  | v => [.bind v]

/-- The parts of an option that is a list. -/
def ofOptionItems : List Value → List Layout
  | [] => []
  | v :: rest => ofOption v :: ofOptionItems rest

/-- The parts of an option that is a mapping. -/
def ofOptionPairs : List (Value × Value) → List Layout
  | [] => []
  | (.text name, v) :: rest => (.text (name ++ " = ") :: ofOption v) :: ofOptionPairs rest
  | (_, v) :: rest => ofOption v :: ofOptionPairs rest

end

/-- A pattern that a column is matched with. -/
def ofPattern (table : Value) : Value → Layout
  | .raw sql params => ofRaw sql params
  | v =>
    match Like.pattern v table with
    | .ok pattern => [.bind pattern]
    | .error f => [.fault f]

/-- What is laid out for the text of a value. -/
def ofShown (v : Value) (layout : String → Layout) : Layout :=
  match v.shown with
  | .ok s => layout s
  | .error f => [.fault f]

@[simp] theorem ofShown_text (s : String) (layout : String → Layout) :
    ofShown (.text s) layout = layout s := rfl

theorem ofShown_eq_or (v : Value) (layout : String → Layout) :
    ofShown v layout = layout v.display ∨ ofShown v layout = [.fault (.misuse .meaningless)] := by
  rcases v.shown_eq_or with h | h <;> simp [ofShown, h]

/-- A full-text query: a text for which just that text is searched. -/
def ofFulltext : Value → Layout
  | .raw sql params => [.merge params, .text ("MATCH(" ++ sql ++ ")")]
  | v => enclose "MATCH(" (ofShown v fun s => [.bind (.text (Match.escape s))]) ")"

end SearchSql.Layout

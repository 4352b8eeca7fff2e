import SearchSql.Layout.Value
import SearchSql.Numeral.Count
import SearchSql.Selection.Entry

/-!
# Layout of clauses

The clauses of statements that hold neither conditions nor selections.

## Main definitions

* `Layout.ofFields`, `Layout.ofColumns`, `Layout.ofOrder` — lists of names.
* `Layout.ofWindow` — the rows that are returned.
* `Layout.ofOptions`, `Layout.ofFacets`, `Layout.ofShowMeta` — the clauses at the end.
-/

namespace SearchSql.Layout

variable (c : Connection)

/-- A name with its label, if it has one. -/
def ofLabeled (separator name : String) : Option String → Layout
  | some label => [.text (c.quote name ++ separator ++ c.quote label)]
  | none => [.text (c.quote name)]

/-- A raw fragment with its label, if it has one. -/
def ofRawLabeled (separator sql : String) (params : Mapping) : Option String → Layout
  | some label => ofRaw (sql ++ separator ++ c.quote label) params
  | none => ofRaw sql params

/-- A field. -/
def ofField : Field → Layout
  | .named name label => ofLabeled c " AS " name label
  | .raw sql params label => ofRawLabeled c " AS " sql params label
  | .unwritable => [.fault (.misuse .meaningless)]

/-- Fields; all columns if there are none. -/
def ofFields (fields : List Field) : Layout :=
  if fields.isEmpty then [.text "*"] else join ", " (fields.map (ofField c))

/-- A column of a list. -/
def ofColumn : ListedColumn → Layout
  | .named name => [.text (c.quote name)]
  | .raw sql params => ofRaw sql params
  | .unwritable => [.fault (.misuse .meaningless)]

/-- Columns with commas between them. -/
def ofColumns (columns : List ListedColumn) : Layout := join ", " (columns.map (ofColumn c))

/-- A part of an ordering. Descent is always written, ascent only if `spelled` is true. -/
def ofOrderTerm (spelled : Bool) : OrderTerm → Layout
  | .raw sql params => ofRaw sql params
  | .column name .descending => [.text (c.quote name ++ " DESC")]
  | .column name .ascending => [.text (if spelled then c.quote name ++ " ASC" else c.quote name)]
  | .unwritable => [.fault (.misuse .meaningless)]

/-- An ordering after its keyword, left out if nothing is ordered. -/
def ofOrdering (keyword : String) (spelled : Bool) (terms : List OrderTerm) : Layout :=
  if terms.isEmpty then []
  else .text (keyword ++ " ") :: join ", " (terms.map (ofOrderTerm c spelled))

/-- The order of a result. -/
def ofOrder (terms : List OrderTerm) : Layout := ofOrdering c "ORDER BY" true terms

/-- The order of rows within a group. -/
def ofWithin (terms : List OrderTerm) : Layout := ofOrdering c "WITHIN GROUP ORDER BY" false terms

/-- The rows that are returned. When only an offset is given, the default number of rows
completes it. -/
def windowText (limit offset : Value) : Checked String := do
  let skipped ← Numeral.count? offset
  let returned ← Numeral.count? limit
  match skipped.filter (0 < ·), returned with
  | none, none => return ""
  | none, some n => return "LIMIT " ++ (← Numeral.write n)
  | some m, some n => return "LIMIT " ++ (← Numeral.write m) ++ "," ++ (← Numeral.write n)
  | some m, none =>
    return "LIMIT " ++ (← Numeral.write m) ++ "," ++ (← Numeral.write c.settings.defaultLimit)

/-- The clause for the rows that are returned. -/
def ofWindow (limit offset : Value) : Layout :=
  match windowText c limit offset with
  | .ok s => ofText s
  | .error f => [.fault f]

/-- Named options. -/
def ofOptions (options : List (String × Value)) : Layout :=
  if options.isEmpty then []
  else .text "OPTION " ::
    join ", " (options.map fun (name, v) => .text (name ++ " = ") :: ofOption v)

/-- An ordering that may be at fault. -/
def ofCheckedOrder : Checked (List OrderTerm) → Layout
  | .ok terms => ofOrder c terms
  | .error f => [.fault f]

/-- A facet. -/
def ofFacet : Checked Facet → Layout
  | .ok facet =>
    .text "FACET " :: joinPresent " " [
      ofFields c facet.fields,
      ofCheckedOrder c facet.order,
      ofWindow c facet.limit facet.offset]
  | .error f => [.fault f]

/-- Facets. -/
def ofFacets (facets : List (Checked Facet)) : Layout :=
  join c.settings.separator (facets.map (ofFacet c))

/-- The statement that shows statistics, all of them or those whose names match. -/
def ofShowMeta (v : Value) : Layout :=
  if !v.truthy then []
  else match v with
    | .bool _ => [.text "SHOW META"]
    | .raw sql params => .text "SHOW META LIKE " :: ofRaw sql params
    | v => .text "SHOW META LIKE " ::
      ofShown v fun s => ofPattern (Like.tableValue c.settings.likeEscape) (.text s)

end SearchSql.Layout

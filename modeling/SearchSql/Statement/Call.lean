import SearchSql.Layout.Value

/-!
# Procedure calls

The two procedures of a server: excerpts of documents around the words of a query, and
the keywords of a text. Their arguments are bound, and options may be raw fragments.

## Main definitions

* `Layout.ofSnippets` — the call for excerpts.
* `Layout.keywordsText` — the text of the call for keywords.
-/

namespace SearchSql.Layout

/-- The documents of a call: one, or a list of several. -/
def ofDocuments (source : Value) : Layout :=
  match source.sequence? with
  | some documents => enclose "(" (join "," (documents.map fun v => [.bind v])) ")"
  | none => [.bind source]

/-- The options of a call, each after a comma. -/
def ofCallOptions (options : Value) : Layout :=
  if !options.truthy then []
  else match options with
    | .map pairs =>
      .text ", " :: join ", " (pairs.map fun (name, v) =>
        ofPlain v ++ naming [name] ++ [.text (" AS " ++ name.display)])
    | _ => [.fault (.misuse .notMapping)]

/-- The call for excerpts of documents. -/
def ofSnippets (index source query options : Value) : Layout :=
  enclose "CALL SNIPPETS("
    (ofDocuments source ++ .text ", " :: .bind index :: .text ", " :: .bind query ::
      ofCallOptions options) ")"

/-- The call for keywords, from the names of its two parameters. -/
def keywordsText (textName indexName : String) (statistics : Bool) : String :=
  "CALL KEYWORDS(" ++ textName ++ ", " ++ indexName ++ (if statistics then ", 1" else "") ++ ")"

end SearchSql.Layout

import SearchSql.Proofs.Connection.Statement
import SearchSql.Proofs.Formula.Composition
import SearchSql.Proofs.Layout.Infix

/-!
# Keywords and what they introduce

A statement is laid out as phrases, each of them a keyword with a body behind it, and as parts that
have no keyword or that are at fault. The parts of a clause stand on one line, with blanks between
them; the lines of a selection stand between the separators of the settings. Nothing else is
written.

## Main definitions

* `Keyword`, `Phrase` — a keyword with its body.
* `Part`, `Layout.line` — phrases and other parts side by side.
* `Selection.lines` — the lines of a selection.
* `Request.line?` — the line of a statement that changes an index.

## Main statements

* `Connection.exists_charsAt_clause` — where a clause of a query stands.
* `Selection.layout_eq_lines` — a selection is made of its lines.
* `Connection.statement?_of_line?` — a statement that changes an index is made of its parts.
-/
namespace SearchSql

/-- A keyword that has a body. -/
inductive Keyword where
  /-- The fields of a selection. -/
  | select
  /-- What is searched. -/
  | source
  /-- The condition on rows. -/
  | filter
  /-- The columns that rows are grouped by. -/
  | groups
  /-- The order of rows within a group. -/
  | within
  /-- The condition on groups. -/
  | having
  /-- The order of a result. -/
  | order
  /-- Named options. -/
  | options
  /-- The fields of a facet. -/
  | facet
  /-- The columns that are changed. -/
  | changes
  /-- The rows that are stored. -/
  | rows
  deriving DecidableEq, Repr

/-- The word for a keyword. -/
def Keyword.word : Keyword → String
  | .select => "SELECT"
  | .source => "FROM"
  | .filter => "WHERE"
  | .groups => "GROUP BY"
  | .within => "WITHIN GROUP ORDER BY"
  | .having => "HAVING"
  | .order => "ORDER BY"
  | .options => "OPTION"
  | .facet => "FACET"
  | .changes => "SET"
  | .rows => "VALUES"

/-- A keyword with its body. -/
structure Phrase where
  /-- The names of the indexes that are searched, of which nothing is written here. -/
  searched : Option (List String) := none
  /-- What stands in front of the keyword. -/
  front : String := ""
  /-- The keyword. -/
  keyword : Keyword
  /-- The words that belong to the keyword. -/
  modifiers : String := ""
  /-- What the keyword introduces. -/
  body : Layout
  /-- The names in the phrase, which are checked behind the body. -/
  names : List Value := []

namespace Phrase

open Layout

/-- The text in front of the body. -/
def opening (p : Phrase) : String := p.front ++ p.keyword.word ++ p.modifiers ++ " "

/-- The pieces in front of the body. -/
def head (p : Phrase) : Layout := (p.searched.map .indexes).toList ++ [.text p.opening]

/-- The phrase as it is laid out. -/
def layout (p : Phrase) : Layout := p.head ++ (p.body ++ naming p.names)

theorem layout_of_names_eq_nil {p : Phrase} (h : p.names = []) : p.layout = p.head ++ p.body := by
  rw [layout, h, naming_nil, List.append_nil]

theorem layout_of_keyword (keyword : Keyword) (body : Layout) :
    ({ keyword, body } : Phrase).layout = .text (keyword.word ++ " ") :: body := by
  simp [layout, head, opening]

end Phrase

/-- A part of a line. -/
inductive Part where
  /-- A keyword with its body. -/
  | phrase (p : Phrase)
  /-- Something without a keyword, or at fault. -/
  | plain (l : Layout)

namespace Part

/-- A part as it is laid out. -/
def layout : Part → Layout
  | phrase p => p.layout
  | plain l => l

/-- A phrase that may be left out. -/
def phraseUnless (isLeftOut : Bool) (p : Phrase) : List Part :=
  if isLeftOut then [] else [.phrase p]

end Part

namespace Layout

/-- Parts with blanks between them. -/
def line (parts : List Part) : Layout := joinPresent " " (parts.map Part.layout)

/-- What the keyword for a filter introduces. -/
def filterBody (fulltext : Value) (isOmitted : Bool) (condition : Layout) : Layout :=
  match fulltext with
  | .null => condition
  | v => if isOmitted then ofFulltext v else connect "AND" [ofFulltext v, condition]

/-- Options behind their names. -/
def namedOptions (options : List (String × Value)) : Layout :=
  join ", " (options.map fun (name, v) => .text (name ++ " = ") :: ofOption v)

end Layout

open Layout

namespace Part

variable (c : Connection)

/-- A phrase that is left out with its body. -/
def phraseAfter (keyword : Keyword) (body : Layout) : List Part :=
  phraseUnless body.isEmpty { keyword, body }

/-- The phrase for a grouping. -/
def grouping : Option (List ListedColumn) → List Part
  | none => []
  | some columns => [.phrase { keyword := .groups, body := ofColumns c columns }]

/-- The phrase for an ordering. -/
def ordering (keyword : Keyword) (spelled : Bool) (terms : List OrderTerm) : List Part :=
  phraseUnless terms.isEmpty
    { keyword, body := join ", " (terms.map (ofOrderTerm c spelled)) }

/-- The phrase for options. -/
def options (options : List (String × Value)) : List Part :=
  phraseUnless options.isEmpty { keyword := .options, body := namedOptions options }

/-- The parts of an ordering that may be at fault. -/
def checkedOrder : Checked (List OrderTerm) → List Part
  | .ok terms => ordering c .order true terms
  | .error f => [.plain [.fault f]]

/-- The parts of a facet. -/
def facet : Checked Facet → List Part
  | .ok facet =>
    .phrase { keyword := .facet, body := ofFields c facet.fields } ::
      (checkedOrder c facet.order ++ [.plain (ofWindow c facet.limit facet.offset)])
  | .error f => [.plain [.fault f]]

/-- The parts of options that are given as a mapping. -/
def optionMapping (given : Value) : List Part :=
  if !given.truthy then []
  else match given with
    | .map pairs => phraseUnless pairs.isEmpty {
        keyword := .options
        body := namedOptions (pairs.map fun (name, v) => (name.display, v))
        names := pairs.map Prod.fst }
    | _ => [.plain [.fault (.misuse .notMapping)]]

end Part

/-- The lines of a selection, clause by clause and facet by facet. -/
def Selection.lines (c : Connection) (s : Selection) : List (List Part) := [
  [.phrase {
    keyword := .select
    modifiers := (if s.distinct then " DISTINCT" else "") ++ s.modifier.elim "" (" " ++ ·)
    body := ofFields c s.fields }],
  Part.phraseUnless s.sources.isEmpty {
    searched := some s.indexNames
    keyword := .source
    body := join ", " (Source.layouts c s.sources) },
  Part.phraseAfter .filter
    (filterBody s.fulltext s.condition.isOmitted (s.condition.layout c (s.indexes c))),
  Part.grouping c s.groupBy,
  Part.ordering c .within false s.within,
  Part.phraseAfter .having (s.having.layout c (s.indexes c)),
  Part.ordering c .order true s.order,
  [.plain (ofWindow c s.limit s.offset)],
  Part.options s.options] ++ s.facets.map (Part.facet c)

/-- The phrase for rows that are stored. -/
def Phrase.stored (c : Connection) (how : Store) (target : Value) (columns : List Value)
    (rows : Layout) : Phrase where
  front := how.keyword ++ " INTO " ++ c.quoteValue target ++ " (" ++ quotedColumns c columns ++ ") "
  keyword := .rows
  body := rows
  names := target :: columns

/-- The phrase for columns that are changed. -/
def Phrase.changed (c : Connection) (target : Value) (cells : List (Value × Value)) : Phrase where
  front := "UPDATE " ++ c.quoteValue target ++ " "
  keyword := .changes
  body := join ", " (cells.map fun (column, v) =>
    .text (c.quoteValue column ++ "=") :: ofCell (c.knownIndex target) column v)
  names := [target]

/-- The phrase for the condition on the rows of an index. -/
def Part.rowCondition (c : Connection) (target tree : Value) : List Part :=
  phraseAfter .filter (Condition.layoutOf c (c.knownIndex target) tree)

/-- The line of a statement that changes an index. -/
def Request.line? (c : Connection) : Request → Option (List Part)
  | .store how target (.map cells) _ => some [.phrase <|
      .stored c how target (cells.map Prod.fst) (ofCells (c.knownIndex target) cells)]
  | .batch how target names rows _ =>
    match names.elements?, rows.elements? with
    | some names, some items => some [.phrase <|
        .stored c how target names (join ", " (items.map (ofBatchRow c how target names)))]
    | _, _ => none
  | .update target (.map cells) tree _ options =>
    some <| .phrase (.changed c target cells) ::
      (Part.rowCondition c target tree ++ Part.optionMapping options)
  | .delete target tree _ => some <|
      .plain (naming [target] ++ [.text ("DELETE FROM " ++ c.quoteValue target)]) ::
        Part.rowCondition c target tree
  | _ => none

/-! ## Clauses and statements -/

/-- What stands in a clause of a query is written somewhere in its statement. -/
theorem Connection.exists_charsAt_clause {c : Connection} {q : Query} {params : Value}
    {k : Compiled} (hk : c.build q params = .ok k) {clause l : Layout}
    (hclause : clause ∈ (Selection.ofQuery q).clauses c) (hl : l <:+: clause) :
    ∃ start, l.charsAt c.settings.paramStem start <:+: k.sql.toList := by
  obtain ⟨hsound, hsql, -, -⟩ := c.compile_eq_ok_iff.1 hk
  have hlayout : (Selection.ofQuery q).layout c <:+: ofCaller params ++ c.queryLayout q :=
    (List.prefix_append ..).isInfix.trans (List.suffix_append ..).isInfix
  have hin := (Selection.infix_layout (hsound.of_isInfix hlayout) hclause).trans hlayout
  rw [hsql]
  exact exists_charsAt_infix c.settings.paramStem (hl.trans hin) .empty

/-! ## Lines and layouts -/

namespace Layout

variable {separator : String}

theorem joinPresent_singleton (separator : String) (l : Layout) :
    joinPresent separator [l] = l := by
  cases l <;> rfl

theorem joinPresent_congr {ls ms : List Layout}
    (h : ls.filter (!·.isEmpty) = ms.filter (!·.isEmpty)) :
    joinPresent separator ls = joinPresent separator ms := by
  rw [joinPresent, h, joinPresent]

/-- What stands in front of the first layout stands in front of them all. -/
theorem joinPresent_append_cons (front : Layout) {l : Layout} (hne : l ≠ []) (ls : List Layout) :
    joinPresent separator ((front ++ l) :: ls) = front ++ joinPresent separator (l :: ls) := by
  cases hpresent : ls.filter (!·.isEmpty) <;> simp [joinPresent, hne, hpresent]

/-- Layouts behind others. -/
theorem join_append {ls ms : List Layout} (hls : ls ≠ []) (hms : ms ≠ []) :
    join separator (ls ++ ms) = join separator ls ++ .text separator :: join separator ms := by
  induction ls with
  | nil => exact absurd rfl hls
  | cons l rest ih =>
    cases rest with
    | nil =>
      obtain ⟨m, others, rfl⟩ := List.exists_cons_of_ne_nil hms
      rfl
    | cons next rest =>
      rw [List.cons_append, List.cons_append, join_cons_cons, ← List.cons_append,
        ih (List.cons_ne_nil _ _), join_cons_cons, List.append_assoc, List.cons_append]

/-- Layouts that are joined by themselves are joined with those in front of them. -/
theorem join_append_join (ls : List Layout) {ms : List Layout} (hne : ms ≠ []) :
    join separator (ls ++ [join separator ms]) = join separator (ls ++ ms) := by
  cases ls with
  | nil => rfl
  | cons l rest =>
    rw [join_append (List.cons_ne_nil l rest) (List.cons_ne_nil _ _), join_singleton,
      join_append (List.cons_ne_nil l rest) hne]

/-- The same where those that are left out take no part. -/
theorem joinPresent_append_join (ls : List Layout) {ms : List Layout} (h : ∀ m ∈ ms, m ≠ []) :
    joinPresent separator (ls ++ [join separator ms]) = joinPresent separator (ls ++ ms) := by
  have hpresent : ms.filter (!·.isEmpty) = ms := by simpa using h
  cases ms with
  | nil => simp [joinPresent]
  | cons first rest =>
    have hjoin : join separator (first :: rest) ≠ [] :=
      join_ne_nil (h first (List.mem_cons_self ..)) rest
    have hone : [join separator (first :: rest)].filter (!·.isEmpty) =
        [join separator (first :: rest)] := by simp [hjoin]
    rw [joinPresent, joinPresent, List.filter_append, List.filter_append, hpresent, hone,
      join_append_join _ (List.cons_ne_nil first rest)]

/-- Layouts behind others of which one is not left out. -/
theorem joinPresent_append {ls : List Layout} (h : ∃ l ∈ ls, l ≠ []) (ms : List Layout) :
    joinPresent separator (ls ++ ms) =
      joinPresent separator ls ++ after separator (joinPresent separator ms) := by
  obtain ⟨l, hl, hne⟩ := h
  have hpresent : ls.filter (!·.isEmpty) ≠ [] :=
    List.ne_nil_of_mem (List.mem_filter.2 ⟨hl, by simpa using hne⟩)
  rw [joinPresent, joinPresent, joinPresent, List.filter_append]
  cases hbehind : ms.filter (!·.isEmpty) with
  | nil => rw [List.append_nil, join_nil, after_nil, List.append_nil]
  | cons m rest =>
    have hm : m ≠ [] := by
      have hmem := (List.mem_filter.1 (hbehind ▸ List.mem_cons_self ..)).2
      simpa using hmem
    have hjoin : join separator (m :: rest) ≠ [] := join_ne_nil hm rest
    rw [join_append hpresent (List.cons_ne_nil m rest), after, if_neg (by simpa using hjoin)]

end Layout

namespace Part

/-- Parts and clauses that are the same but for those that are left out. -/
def Are (parts : List Part) (clauses : List Layout) : Prop :=
  (parts.map layout).filter (!·.isEmpty) = clauses.filter (!·.isEmpty)

namespace Are

variable {parts others : List Part} {clauses : List Layout}

theorem append {behind : List Layout} (h : Are parts clauses) (hbehind : Are others behind) :
    Are (parts ++ others) (clauses ++ behind) := by
  rw [Are, List.map_append, List.filter_append, List.filter_append, h, hbehind]

theorem line_eq (h : Are parts clauses) : line parts = joinPresent " " clauses :=
  joinPresent_congr h

theorem line_eq_clause {clause : Layout} (h : Are parts [clause]) : line parts = clause :=
  h.line_eq.trans (joinPresent_singleton " " clause)

end Are

theorem are_plain (l : Layout) : Are [.plain l] [l] := rfl

theorem are_phrase (p : Phrase) : Are [.phrase p] [p.layout] := rfl

theorem are_phraseUnless (isLeftOut : Bool) (p : Phrase) :
    Are (phraseUnless isLeftOut p) [if isLeftOut then [] else p.layout] := by
  cases isLeftOut <;> rfl

theorem are_phraseAfter (keyword : Keyword) (body : Layout) :
    Are (phraseAfter keyword body) [after (keyword.word ++ " ") body] := by
  rw [after, ← Phrase.layout_of_keyword]
  exact are_phraseUnless _ _

variable (c : Connection)

theorem are_grouping (groupBy : Option (List ListedColumn)) :
    Are (grouping c groupBy) [groupBy.elim [] fun columns =>
      .text "GROUP BY " :: ofColumns c columns] := by
  cases groupBy with
  | none => rfl
  | some columns =>
    have hphrase := are_phrase { keyword := .groups, body := ofColumns c columns }
    rw [Phrase.layout_of_keyword] at hphrase
    exact hphrase

theorem are_ordering (keyword : Keyword) (spelled : Bool) (terms : List OrderTerm) :
    Are (ordering c keyword spelled terms) [ofOrdering c keyword.word spelled terms] := by
  rw [ofOrdering, ← Phrase.layout_of_keyword]
  exact are_phraseUnless _ _

theorem are_options (given : List (String × Value)) : Are (options given) [ofOptions given] := by
  have hphrase := are_phraseUnless given.isEmpty { keyword := .options, body := namedOptions given }
  rw [Phrase.layout_of_keyword] at hphrase
  exact hphrase

theorem are_checkedOrder (order : Checked (List OrderTerm)) :
    Are (checkedOrder c order) [ofCheckedOrder c order] := by
  cases order with
  | ok terms => exact are_ordering c .order true terms
  | error f => rfl

theorem are_optionMapping (given : Value) :
    Are (optionMapping given) [ofOptionMapping given] := by
  unfold optionMapping ofOptionMapping
  split
  · rfl
  · cases given with
    | map pairs => cases pairs <;> rfl
    | _ => rfl

theorem ofFields_ne_nil (fields : List Field) : ofFields c fields ≠ [] := by
  have hfield (field : Field) : ofField c field ≠ [] := by
    match field with
    | .named _ none | .named _ (some _) | .raw _ _ none | .raw _ _ (some _) | .unwritable =>
      exact List.cons_ne_nil _ _
  cases fields with
  | nil => exact List.cons_ne_nil _ _
  | cons first rest => exact join_ne_nil (hfield first) _

/-- A facet stands on one line. -/
theorem line_facet (given : Checked Facet) : line (facet c given) = ofFacet c given := by
  cases given with
  | error f => exact (are_plain _).line_eq_clause
  | ok given =>
    have hparts := (are_phrase { keyword := .facet, body := ofFields c given.fields }).append
      ((are_checkedOrder c given.order).append (are_plain (ofWindow c given.limit given.offset)))
    rw [Phrase.layout_of_keyword] at hparts
    exact hparts.line_eq.trans
      (joinPresent_append_cons [.text "FACET "] (ofFields_ne_nil c given.fields) _)

end Part

namespace Selection

variable (c : Connection) (s : Selection)

theorem ofFilter_eq_after (fulltext : Value) (isOmitted : Bool) (condition : Layout) :
    ofFilter fulltext isOmitted condition =
      Layout.after "WHERE " (filterBody fulltext isOmitted condition) := by
  cases fulltext <;> cases isOmitted <;> rfl

/-- The words behind the keyword for fields. -/
theorem layout_head : ({
    keyword := .select
    modifiers := (if s.distinct then " DISTINCT" else "") ++ s.modifier.elim "" (" " ++ ·)
    body := ofFields c s.fields } : Phrase).layout =
      .text ((if s.distinct then "SELECT DISTINCT " else "SELECT ") ++
        s.modifier.elim "" (· ++ " ")) :: ofFields c s.fields := by
  have hopening : "" ++ "SELECT" ++ ((if s.distinct then " DISTINCT" else "") ++
      s.modifier.elim "" (" " ++ ·)) ++ " " =
        (if s.distinct then "SELECT DISTINCT " else "SELECT ") ++
          s.modifier.elim "" (· ++ " ") := by
    cases s.distinct <;> cases s.modifier <;> simp [← String.toList_inj]
  rw [← hopening]
  exact Phrase.layout_of_names_eq_nil rfl

theorem layout_source : ({
    searched := some s.indexNames
    keyword := .source
    body := join ", " (Source.layouts c s.sources) } : Phrase).layout =
      .indexes s.indexNames :: .text "FROM " :: join ", " (Source.layouts c s.sources) :=
  Phrase.layout_of_names_eq_nil rfl

theorem map_line_lines : (s.lines c).map line =
    (s.clauses c).dropLast ++ s.facets.map (ofFacet c) := by
  have hfacets : line ∘ Part.facet c = ofFacet c := funext (Part.line_facet c)
  rw [lines, List.map_append, List.map_map, hfacets]
  simp only [List.map_cons, List.map_nil, (Part.are_phrase _).line_eq_clause, layout_head,
    (Part.are_phraseUnless _ _).line_eq_clause, (Part.are_phraseAfter _ _).line_eq_clause,
    (Part.are_grouping c _).line_eq_clause, (Part.are_ordering c _ _ _).line_eq_clause,
    (Part.are_plain _).line_eq_clause, (Part.are_options _).line_eq_clause, layout_source]
  rw [clauses, ofFilter_eq_after]
  rfl

/-- **A selection is made of its lines**, unless it cannot be written. -/
theorem layout_eq_lines : s.layout c = .merge s.params ::
    if s.isJoined then [.fault (.unsupportedClause "JOIN")]
    else joinPresent c.settings.separator ((s.lines c).map line) := by
  have hfacets : ∀ l ∈ s.facets.map (ofFacet c), l ≠ [] := by
    intro l hl
    obtain ⟨facet, -, rfl⟩ := List.mem_map.1 hl
    cases facet <;> exact List.cons_ne_nil _ _
  have hclauses : (s.clauses c).dropLast ++ [ofFacets c s.facets] = s.clauses c := rfl
  rw [layout_eq, map_line_lines, ← joinPresent_append_join _ hfacets, ← hclauses]
  rfl

end Selection

namespace Phrase

variable (c : Connection) (target : Value)

theorem layout_stored (how : Store) (columns : List Value) (rows : Layout) :
    (stored c how target columns rows).layout =
      .text (storeHead c how target columns) :: rows ++ naming (target :: columns) := by
  have hopening : (stored c how target columns rows).opening =
      storeHead c how target columns := by
    have hword : Keyword.rows.word = "VALUES" := rfl
    simp [opening, stored, hword, storeHead, ← String.toList_inj]
  rw [← hopening]
  rfl

theorem layout_changed (cells : List (Value × Value)) :
    (changed c target cells).layout = .text ("UPDATE " ++ c.quoteValue target ++ " SET ") ::
      (changed c target cells).body ++ naming [target] := by
  have hopening : (changed c target cells).opening =
      "UPDATE " ++ c.quoteValue target ++ " SET " := by
    have hword : Keyword.changes.word = "SET" := rfl
    simp [opening, changed, hword, ← String.toList_inj]
  rw [← hopening]
  rfl

end Phrase

theorem Part.are_rowCondition (c : Connection) (target tree : Value) :
    Are (rowCondition c target tree) [ofRowCondition c target tree] :=
  are_phraseAfter .filter _

/-- A batch has a line if its columns and its rows are lists. -/
theorem Request.exists_of_line?_batch {c : Connection} {how : Store}
    {target names rows params : Value} {parts : List Part}
    (h : (Request.batch how target names rows params).line? c = some parts) :
    ∃ columns items, names.elements? = some columns ∧ rows.elements? = some items ∧
      parts = [.phrase (.stored c how target columns
        (join ", " (items.map (ofBatchRow c how target columns))))] := by
  rw [line?] at h
  split at h
  · rename_i columns items hnames hrows
    exact ⟨columns, items, hnames, hrows, (Option.some.inj h).symm⟩
  · cases h

/-- **A statement that changes an index is made of its parts.** -/
theorem Connection.statement?_of_line? {c : Connection} {r : Request} {parts : List Part}
    (h : r.line? c = some parts) : ∃ params, c.statement? r = some (params, line parts) := by
  cases r with
  | store how target cells params =>
    cases cells with
    | map cells =>
      obtain rfl := Option.some.inj h
      refine ⟨params, ?_⟩
      rw [(Part.are_phrase _).line_eq_clause, Phrase.layout_stored]
      rfl
    | _ => cases h
  | batch how target names rows params =>
    obtain ⟨columns, items, hnames, hrows, rfl⟩ := Request.exists_of_line?_batch h
    refine ⟨params, ?_⟩
    rw [(Part.are_phrase _).line_eq_clause, Phrase.layout_stored, statement?, ofBatch]
    simp only [hnames, hrows]
  | update target cells tree params options =>
    cases cells with
    | map cells =>
      obtain rfl := Option.some.inj h
      have hparts := (Part.are_phrase (.changed c target cells)).append
        ((Part.are_rowCondition c target tree).append (Part.are_optionMapping options))
      rw [Phrase.layout_changed] at hparts
      exact ⟨params, congrArg (fun l => some (params, l)) hparts.line_eq.symm⟩
    | _ => cases h
  | delete target tree params =>
    obtain rfl := Option.some.inj h
    have hparts := (Part.are_plain
      (naming [target] ++ [.text ("DELETE FROM " ++ c.quoteValue target)])).append
        (Part.are_rowCondition c target tree)
    exact ⟨params, congrArg (fun l => some (params, l)) hparts.line_eq.symm⟩
  | _ => cases h

end SearchSql

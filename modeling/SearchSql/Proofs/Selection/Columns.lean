import SearchSql.Proofs.Label.Forms
import SearchSql.Proofs.Phrase.Parts
import SearchSql.Proofs.Phrase.Seen

/-!
# Columns in a text

Columns are given in a list, or in a text with commas between their names. Blanks around a name in
the text do not count, whatever they are, and nor do pieces of blanks that have no name in them. So
the text is read as the list of the names, and both are written alike.

## Main definitions

* `Text.IsPadding` — a text of blanks, which may be empty.
* `ListedColumn.Spaced` — the pieces of a text in which names stand.

## Main statements

* `Text.trimChars_padded` — a name is all that is left of its piece.
* `ListedColumn.ofText_spaced` — the columns of a text.
* `Connection.columns_alike_of_spaced` — a text and a list of columns are written alike.
-/
namespace SearchSql

open Text

/-! ## Padding -/

namespace Text

/-- Blanks around a word, of which there may be none. -/
def IsPadding (s : String) : Prop := ∀ a ∈ s.toList, isBlank a = true

/-- A text begins and ends with a character that is seen. -/
structure IsTrimmed (cs : List Char) : Prop where
  /-- The first character is no blank. -/
  head : ∀ a ∈ cs.head?, isBlank a = false
  /-- The last character is no blank. -/
  last : ∀ a ∈ cs.getLast?, isBlank a = false

theorem IsTrimmed.trimChars_eq {cs : List Char} (h : IsTrimmed cs) :
    trimChars isBlank cs = cs := by
  have hkeep {ds : List Char} (hds : ∀ a ∈ ds.head?, isBlank a = false) :
      ds.dropWhile isBlank = ds := by
    cases ds with
    | nil => rfl
    | cons a rest => simp [hds a rfl]
  have hlast : ∀ a ∈ cs.reverse.head?, isBlank a = false := by
    rw [List.head?_reverse]
    exact h.last
  rw [trimChars, hkeep h.head, hkeep hlast, List.reverse_reverse]

/-- **A name is all that is left of its piece.** -/
theorem trimChars_padded {front name back : String} (hfront : IsPadding front)
    (hname : IsTrimmed name.toList) (hback : IsPadding back) :
    trimChars isBlank (front ++ name ++ back).toList = name.toList := by
  rw [String.toList_append, String.toList_append, trimChars_append_right _ hback,
    trimChars_append_left _ hfront, hname.trimChars_eq]

theorem IsPadding.notMem {s : String} (h : IsPadding s) {a : Char} (ha : isBlank a = false) :
    a ∉ s.toList := by
  intro hmem
  rw [h a hmem] at ha
  cases ha

end Text

namespace ListedColumn

/-! ## How a text is read -/

/-- The name of a column that is no expression. -/
structure IsName (name : String) : Prop where
  /-- There is a name. -/
  ne : name ≠ ""
  /-- It is one name. -/
  undivided : ',' ∉ name.toList
  /-- No parenthesis opens in it. -/
  plain : '(' ∉ name.toList
  /-- No blanks are around it. -/
  trimmed : IsTrimmed name.toList

/-- The pieces of a text in which some names stand: each of them has a piece of its own with blanks
around it, and other pieces are blank. -/
inductive Spaced : List String → List String → Prop where
  /-- There are no pieces. -/
  | nil : Spaced [] []
  /-- A piece without a name. -/
  | blank {gap : String} {pieces names : List String} (hgap : IsPadding gap)
    (h : Spaced pieces names) : Spaced (gap :: pieces) names
  /-- A piece with a name. -/
  | name {front name back : String} {pieces names : List String} (hfront : IsPadding front)
    (hback : IsPadding back) (h : Spaced pieces names) :
    Spaced ((front ++ name ++ back) :: pieces) (name :: names)

variable {pieces names : List String}

/-- A character that is in no name and no blank is in no piece. -/
theorem Spaced.notMem (h : Spaced pieces names) {a : Char} (hblank : isBlank a = false)
    (hnames : ∀ name ∈ names, a ∉ name.toList) : ∀ piece ∈ pieces, a ∉ piece.toList := by
  induction h with
  | nil => exact List.forall_mem_nil _
  | blank hgap _ ih => exact List.forall_mem_cons.2 ⟨hgap.notMem hblank, ih hnames⟩
  | name hfront hback _ ih =>
    obtain ⟨hname, hnames⟩ := List.forall_mem_cons.1 hnames
    refine List.forall_mem_cons.2 ⟨?_, ih hnames⟩
    simp [hfront.notMem hblank, hname, hback.notMem hblank]

/-- Just the names are left of the pieces. -/
theorem Spaced.filter_trimmed (h : Spaced pieces names) (hnames : ∀ name ∈ names, IsName name) :
    ((pieces.map String.toList).map (trimChars isBlank)).filter (!·.isEmpty) =
      names.map String.toList := by
  induction h with
  | nil => rfl
  | blank hgap _ ih =>
    have hnone := trimChars_eq_nil_iff.2 hgap
    rw [List.map_cons, List.map_cons, hnone]
    exact ih hnames
  | @name _ name _ _ _ hfront hback _ ih =>
    obtain ⟨hname, hnames⟩ := List.forall_mem_cons.1 hnames
    have hpresent : name.toList ≠ [] := by simpa using hname.ne
    rw [List.map_cons, List.map_cons, trimChars_padded hfront hname.trimmed hback,
      List.filter_cons_of_pos (by simpa using hpresent), ih hnames, List.map_cons]

theorem Spaced.pieces_ne_nil (h : Spaced pieces names) (hne : names ≠ []) : pieces ≠ [] := by
  rintro rfl
  cases h
  exact hne rfl

/-- The pieces between the commas of a text. -/
theorem splitOn_joined (hcomma : ∀ piece ∈ pieces, ',' ∉ piece.toList) (hne : pieces ≠ []) :
    (",".intercalate pieces).toList.splitOn ',' = pieces.map String.toList := by
  have hparts : ∀ part ∈ pieces.map String.toList, ',' ∉ part := by simpa using hcomma
  rw [String.toList_intercalate]
  exact List.splitOn_intercalate ',' hparts (by simpa using hne)

/-- **The columns of a text** are those of the names in it. -/
theorem ofText_spaced (h : Spaced pieces names) (hne : names ≠ [])
    (hnames : ∀ name ∈ names, IsName name) :
    ofText (",".intercalate pieces) = names.map .named := by
  have hsplit := splitOn_joined (h.notMem (by decide) fun name hname =>
    (hnames name hname).undivided)
    (h.pieces_ne_nil hne)
  have hparts : ∀ part ∈ pieces.map String.toList, ∀ a ∈ part, a ≠ '(' := by
    have hopen := h.notMem (a := '(') (by decide) fun name hname => (hnames name hname).plain
    simpa using fun piece hpiece a ha => ne_of_mem_of_not_mem ha (hopen piece hpiece)
  have hplain : hasParenthesis (",".intercalate pieces) = false := by
    rw [← hsplit, Dialect.forall_mem_splitOn_iff] at hparts
    have hopen : '(' ∉ (",".intercalate pieces).toList := fun hmem =>
      (hparts '(' hmem).elim (by decide) fun hother => hother rfl
    simpa [hasParenthesis] using hopen
  have hfound : ofText (",".intercalate pieces) =
      (names.map String.toList).map fun name => .named (String.ofList name) := by
    rw [ofText, hplain, ← h.filter_trimmed hnames, ← hsplit]
    rfl
  rw [hfound, List.map_map]
  exact List.map_congr_left fun name _ => congrArg named String.ofList_toList

theorem map_ofValue_text (names : List String) :
    (names.map Value.text).map ofValue = names.map .named := by
  rw [List.map_map]
  rfl

end ListedColumn

/-! ## How columns are written -/

namespace Layout

variable {stem : String}

theorem textsAt_texts (texts : List String) (p : Params) :
    textsAt stem (texts.map fun s => [.text s]) p = texts.map String.toList := by
  induction texts with
  | nil => rfl
  | cons s rest ih => simp [textsAt, Params.written, Params.after, ih]

variable (c : Connection) (names : List String)

/-- Columns that are names are quoted, whatever parameters are bound before. -/
theorem charsAt_ofColumns_named (p : Params) :
    (ofColumns c (names.map .named)).charsAt stem p =
      (", ".intercalate (names.map c.quote)).toList := by
  have hlayouts : (names.map ListedColumn.named).map (ofColumn c) =
      (names.map c.quote).map fun s => [.text s] := by
    rw [List.map_map, List.map_map]
    rfl
  rw [ofColumns, hlayouts, charsAt_join, textsAt_texts, String.toList_intercalate]

theorem fault?_ofColumns_named : (ofColumns c (names.map .named)).fault? = none := by
  rw [ofColumns, fault?_join, List.findSome?_eq_none_iff]
  intro l hl
  simp only [List.map_map, List.mem_map, Function.comp_apply] at hl
  obtain ⟨name, -, rfl⟩ := hl
  rfl

end Layout

namespace Connection

open ListedColumn

variable {c : Connection} {names : List String}

theorem clause_ofColumns_named (c : Connection) (names : List String) :
    c.clause (Layout.ofColumns c (names.map .named)) =
      .ok (", ".intercalate (names.map c.quote)) := by
  rw [clause_eq, Layout.fault?_ofColumns_named, Option.elim_none, Layout.charsAt_ofColumns_named,
    String.ofList_toList]

/-- What a query is grouped by is written behind its keyword. -/
theorem groups_infix_sql {q : Query} {params : Value} {k : Compiled}
    (hgroups : (Selection.ofQuery q).groupBy = some (names.map .named))
    (hk : c.build q params = .ok k) :
    ("GROUP BY " ++ ", ".intercalate (names.map c.quote)).toList <:+: k.sql.toList := by
  have hclause : .text "GROUP BY " :: Layout.ofColumns c (names.map .named) ∈
      (Selection.ofQuery q).clauses c := by
    refine List.mem_of_getElem? (i := 3) ?_
    rw [Selection.clauses, hgroups]
    rfl
  obtain ⟨start, hchars⟩ := exists_charsAt_clause hk hclause (List.infix_refl _)
  rw [Layout.charsAt_cons, Layout.charsAt_ofColumns_named] at hchars
  rw [String.toList_append]
  exact hchars

/-- **A text of columns is written as the list of them.** Let some names stand between commas, with
any blanks around them and with pieces of blanks among them. The text and the list of the names give
the same list of columns, in each dialect: that of the quoted names. A query that is grouped by the
text is the same selection as the one that is grouped by the list, wherever it stands, so that they
have the same answer; and behind the keyword stand the quoted names. -/
theorem columns_alike_of_spaced (c : Connection) {pieces names : List String} (hne : names ≠ [])
    (hnames : ∀ name ∈ names, IsName name) (h : Spaced pieces names) :
    let text := ",".intercalate pieces
    let written := ", ".intercalate (names.map c.quote)
    c.columns (.text text) = .ok written ∧ c.columns (.list (names.map .text)) = .ok written ∧
      ∀ q : Query,
        let ofText : Query := { q with groupBy := .text text }
        let ofList : Query := { q with groupBy := .columns (names.map .text) }
        Selection.ofQuery ofText = Selection.ofQuery ofList ∧
          ∀ params, c.answer (.build (.query ofText) params) =
              c.answer (.build (.query ofList) params) ∧
            ∀ k, c.build ofText params = .ok k →
              ("GROUP BY " ++ written).toList <:+: k.sql.toList := by
  intro text written
  have hcolumns : ListedColumn.ofText text = names.map .named := ofText_spaced h hne hnames
  refine ⟨?_, ?_, fun q => ?_⟩
  · change c.clause (Layout.ofColumns c (ListedColumn.ofText text)) = _
    rw [hcolumns, clause_ofColumns_named]
  · change c.clause (Layout.ofColumns c ((names.map Value.text).map ListedColumn.ofValue)) = _
    rw [map_ofValue_text, clause_ofColumns_named]
  · intro ofText ofList
    have hgroups : (Selection.ofQuery ofText).groupBy = some (names.map .named) := by
      have hgiven : text ≠ "" := by
        intro hempty
        rw [hempty] at hcolumns
        exact hne (List.map_eq_nil_iff.1 hcolumns.symm)
      simp [Selection.ofQuery_groupBy, ofText, hgiven, hcolumns]
    have hlist : (Selection.ofQuery ofList).groupBy = some (names.map .named) := by
      obtain ⟨first, rest, rfl⟩ := List.exists_cons_of_ne_nil hne
      rw [Selection.ofQuery_groupBy, ← map_ofValue_text]
      rfl
    have hselection : Selection.ofQuery ofText = Selection.ofQuery ofList := by
      rw [Selection.ofQuery_eq, Selection.ofQuery_eq]
      rw [Selection.ofQuery_groupBy] at hgroups hlist
      rw [hgroups, hlist]
    refine ⟨hselection, fun params => ⟨?_, fun k hk => groups_infix_sql hgroups hk⟩⟩
    have hlayout : c.queryLayout ofText = c.queryLayout ofList := by
      rw [queryLayout, queryLayout, hselection]
    have hanswer (q : Query) : c.answer (.build (.query q) params) =
        (do return .selection (← c.compile params (c.queryLayout q))
              (Layout.ofCaller params ++ c.queryLayout q).indexes) := rfl
    rw [hanswer, hanswer, hlayout]

/-- Two names between commas, with blanks of several kinds and pieces without a name. -/
def shelfPieces : List String :=
  ["\u3000", " " ++ "title" ++ "\t", "", "\u001f" ++ "my shelf" ++ "\n", " "]

theorem columns_alike_of_spaced_shelf :
    let c : Connection := ⟨none, .manticore, {}⟩
    let names := ["title", "my shelf"]
    let books : Query := { Clauses.empty with source := .positional [.text "books"] }
    let ofText : Query := { books with groupBy := .text (",".intercalate shelfPieces) }
    let ofList : Query := { books with groupBy := .columns (names.map .text) }
    names ≠ [] ∧ (∀ name ∈ names, IsName name) ∧ Spaced shelfPieces names ∧
      c.columns (.text (",".intercalate shelfPieces)) = .ok "\x60title\x60, \x60my shelf\x60" ∧
      c.answer (.build (.query ofText) .null) = c.answer (.build (.query ofList) .null) := by
  have hnames : ∀ name ∈ ["title", "my shelf"], IsName name := by
    intro name hname
    simp only [List.mem_cons, List.not_mem_nil, or_false] at hname
    rcases hname with rfl | rfl <;>
      exact ⟨by decide, by decide, by decide,
        ⟨by simp [isBlank, isWhiteSpace], by simp [isBlank, isWhiteSpace]⟩⟩
  have hpadding (s : String) (h : s.toList.all isBlank = true) : IsPadding s := by
    simpa [IsPadding] using h
  have hspaced : Spaced shelfPieces ["title", "my shelf"] :=
    .blank (hpadding "\u3000" (by decide)) <|
      .name (hpadding " " (by decide)) (hpadding "\t" (by decide)) <|
      .blank (hpadding "" (by decide)) <|
      .name (hpadding "\u001f" (by decide)) (hpadding "\n" (by decide)) <|
      .blank (hpadding " " (by decide)) .nil
  obtain ⟨htext, -, hqueries⟩ :=
    columns_alike_of_spaced ⟨none, .manticore, {}⟩ (by decide) hnames hspaced
  have hwritten : ", ".intercalate
      (["title", "my shelf"].map (Connection.quote ⟨none, .manticore, {}⟩)) =
        "\x60title\x60, \x60my shelf\x60" := by decide +kernel
  rw [hwritten] at htext
  exact ⟨by decide, hnames, hspaced, htext, ((hqueries _).2 .null).1⟩

end Connection

end SearchSql

import SearchSql.Proofs.Condition.Vacuous
import SearchSql.Proofs.Layout.Faults

/-!
# One condition in several statements

A condition is written in the same way by itself, where rows are deleted, where rows are kept and
where groups are kept. Whether it is left out is decided on its layout; a layout that is not left
out begins with a text or with something wrong, so that this may be seen from what is written. All
statements compare the columns of the same index, whichever way its name is given.

## Main definitions

* `Layout.Opens` — a layout is left out, or something is seen at its beginning.
* `Layout.keywordClause` — a condition behind a keyword.
* `Compiled.withClause` — a condition as a clause of a statement.
* `Layout.Fronts` — a beginning of a statement that binds nothing.

## Main statements

* `Condition.opens_layout` — what conditions begin with, by induction on the condition.
* `Connection.compile_clause` — a condition by itself, and as a clause.
* `Connection.condition_answers_alike` — the four places of a condition.
-/
namespace SearchSql

/-! ## What a condition begins with -/

namespace Layout

variable {stem : String}

/-- A layout is left out, or it begins with a text that is seen or with something wrong. -/
def Opens : Layout → Prop
  | [] => True
  | .text s :: _ => s ≠ ""
  | .fault _ :: _ => True
  | _ => False

/-- Where nothing is written and nothing is wrong, there is nothing. -/
theorem Opens.eq_nil {l : Layout} (h : l.Opens) (hfault : l.fault? = none) {p : Params}
    (hchars : l.charsAt stem p = []) : l = [] := by
  cases l with
  | nil => rfl
  | cons piece rest =>
    cases piece with
    | text s =>
      rw [charsAt_cons, List.append_eq_nil_iff] at hchars
      exact absurd (String.toList_eq_nil_iff.1 hchars.1) h
    | fault f => cases hfault
    | bind v => exact h.elim
    | merge params => exact h.elim
    | indexes names => exact h.elim

theorem opens_text {s : String} (h : s ≠ "") (rest : Layout) : Opens (.text s :: rest) := h

/-- A text with something written at its end. -/
theorem opens_written (name : String) {s : String} (h : s ≠ "") (rest : Layout) :
    Opens (.text (name ++ s) :: rest) := by
  apply opens_text
  simp [h]

theorem opens_ofText (s : String) : (ofText s).Opens := by
  by_cases h : s = ""
  · rw [h]
    trivial
  · rw [ofText, if_neg (by simpa using h)]
    exact h

theorem opens_append {l : Layout} (h : l.Opens) (hne : l ≠ []) (r : Layout) : (l ++ r).Opens := by
  cases l with
  | nil => exact absurd rfl hne
  | cons piece rest => cases piece <;> exact h

theorem opens_append_naming {l : Layout} (h : l.Opens) (names : List Value) :
    (l ++ naming names).Opens := by
  cases l with
  | nil => rcases naming_eq_nil_or names with hn | hn <;> rw [hn] <;> trivial
  | cons => exact opens_append h (List.cons_ne_nil _ _) _

theorem opens_naming_append (names : List Value) {l : Layout} (h : l.Opens) :
    (naming names ++ l).Opens := by
  rcases naming_eq_nil_or names with hn | hn <;> rw [hn]
  · exact h
  · trivial

theorem opens_connect (word : String) (ls : List Layout) : (connect word ls).Opens := by
  rw [connect]
  split
  · trivial
  · exact opens_text (by decide) _

theorem opens_ofRecord {ls : List Layout} (h : ∀ l ∈ ls, l.Opens) : (ofRecord ls).Opens := by
  unfold ofRecord
  split
  · exact h _ (List.mem_singleton_self _)
  · exact opens_connect "AND" ls

/-- Layouts that begin with a text each. -/
theorem opens_join (separator : String) {ls : List Layout}
    (h : ∀ l ∈ ls, l.Opens ∧ l ≠ []) : (join separator ls).Opens := by
  cases ls with
  | nil => trivial
  | cons l rest =>
    obtain ⟨hopens, hne⟩ := h l (List.mem_cons_self ..)
    cases rest with
    | nil => exact hopens
    | cons r others => exact opens_append hopens hne _

theorem opens_ofMembership (c : Connection) (negated : Bool) (column : Value)
    (operands : List Layout) : (ofMembership c negated column operands).Opens := by
  unfold ofMembership
  split
  · trivial
  · exact opens_written _ (by cases negated <;> decide) _
  · exact opens_written _ (by decide) _

theorem opens_ofPatterns (c : Connection) (negated any : Bool) (column : Value)
    (escape : Option Value) (patterns : List Value) :
    (ofPatterns c negated any column escape patterns).Opens := by
  apply opens_join
  intro l hl
  obtain ⟨pattern, -, rfl⟩ := List.mem_map.1 hl
  exact ⟨opens_written _ (by decide) _, List.cons_ne_nil _ _⟩

end Layout

mutual

/-- **What a condition begins with**: a text that is seen, or something wrong. -/
theorem Condition.opens_layout (c : Connection) (indexes : List Index) (condition : Condition) :
    (condition.layout c indexes).Opens := by
  match condition with
  | .omitted | .always => trivial
  | .never => exact Layout.opens_text (by decide) _
  | .verbatim sql => exact Layout.opens_ofText sql
  | .connected connective operands => exact Layout.opens_connect _ _
  | .negation operand =>
    rw [Condition.layout]
    split
    · trivial
    · exact Layout.opens_text (by decide) _
  | .record entries => exact Layout.opens_ofRecord (Condition.opens_layouts c indexes entries)
  | .isNull column => exact Layout.opens_written _ (by decide) _
  | .equals column operand => exact Layout.opens_written _ (by decide) _
  | .between negated column low high => exact Layout.opens_written _ (by decide) _
  | .among negated column operands =>
    exact Layout.opens_append_naming (Layout.opens_ofMembership c negated column _) _
  | .amongRows negated columns rows => exact Layout.opens_written _ (by decide) _
  | .amongSelected negated columns selection => exact Layout.opens_written _ (by decide) _
  | .like negated any column escape patterns =>
    exact Layout.opens_naming_append _ (Layout.opens_ofPatterns ..)
  | .compared operator column operand =>
    exact Layout.opens_naming_append _ (Layout.opens_written _ (by decide) _)
  | .malformed f => trivial

theorem Condition.opens_layouts (c : Connection) (indexes : List Index)
    (conditions : List Condition) : ∀ l ∈ Condition.layouts c indexes conditions, l.Opens := by
  match conditions with
  | [] => exact fun l hl => absurd hl List.not_mem_nil
  | condition :: rest =>
    exact List.forall_mem_cons.2
      ⟨Condition.opens_layout c indexes condition, Condition.opens_layouts c indexes rest⟩

end

/-! ## The name of an index -/

namespace Label

/-- Where there are no blanks, none are passed over. -/
theorem afterBlanks_eq_none {α : Type} (next : List Char → Option α) {cs : List Char}
    (h : ∀ a ∈ cs, Text.isBlank a = false) : afterBlanks next cs = none := by
  cases cs with
  | nil => rfl
  | cons a rest => simp [afterBlanks, h a (List.mem_cons_self ..)]

/-- A name without blanks has no label. -/
theorem ofSource?_eq_none {s : String} (h : ∀ a ∈ s.toList, Text.isBlank a = false) :
    ofSource? s = none := by
  have htail {cs : List Char} (hcs : ∀ a ∈ cs, Text.isBlank a = false) :
      tail? sourceLabel? cs = none := by
    rw [tail?, afterBlanks_eq_none _ hcs, afterBlanks_eq_none _ hcs]
    rfl
  have hsplit {cs : List Char} (hcs : ∀ a ∈ cs, Text.isBlank a = false) :
      split? (tail? sourceLabel?) cs = none := by
    induction cs with
    | nil => rfl
    | cons a rest ih => simp [split?, htail hcs, ih (List.forall_mem_cons.1 hcs).2]
  rw [ofSource?, hsplit h]
  rfl

end Label

/-- A text without blanks and parentheses is the name of an index. -/
theorem Source.ofText_eq_of_notBlank {s : String} (hblank : ∀ a ∈ s.toList, Text.isBlank a = false)
    (hplain : '(' ∉ s.toList) : Source.ofText none s = .index s none := by
  have hparenthesis : hasParenthesis s = false := by
    simpa [hasParenthesis] using hplain
  simp [Source.ofText, splitLabel, hparenthesis, Label.ofSource?_eq_none hblank]

/-! ## A condition as a clause -/

/-- The statement that begins with a text and goes on with a condition behind a keyword, which is
left out where nothing is written for the condition. -/
def Compiled.withClause (head keyword : String) (k : Compiled) : Compiled :=
  { k with sql := if k.sql = "" then head else head ++ " " ++ keyword ++ " " ++ k.sql }

namespace Layout

/-- A condition behind a keyword, both left out together. -/
def keywordClause (keyword : String) (l : Layout) : Layout :=
  if l.isEmpty then [] else .text " " :: .text (keyword ++ " ") :: l

theorem keywordClause_of_ne_nil {keyword : String} {l : Layout} (h : l ≠ []) :
    keywordClause keyword l = .text " " :: .text (keyword ++ " ") :: l := by
  rw [keywordClause, if_neg (by simpa using h)]

/-- The beginning of a statement: nothing is wrong in it, and it binds nothing. -/
structure Fronts (stem head : String) (front : Layout) : Prop where
  fault?_eq : front.fault? = none
  charsAt_eq : ∀ p, front.charsAt stem p = head.toList
  after : ∀ p, front.paramsAfter stem p = p

end Layout

namespace Connection

open Condition Layout

variable {c : Connection} {head : String} {front l : Layout}

/-- What is written for a condition by itself is written behind the keyword. -/
theorem writtenAt_clause (hfront : Fronts c.settings.paramStem head front) (hopens : l.Opens)
    (hfault : l.fault? = none) (keyword : String) (p : Params) :
    c.writtenAt (front ++ keywordClause keyword l) p =
      (c.writtenAt l p).withClause head keyword := by
  by_cases hl : l = []
  · subst hl
    simp [keywordClause, writtenAt, Compiled.withClause, hfront.charsAt_eq, hfront.after]
  · have hsql : String.ofList (l.charsAt c.settings.paramStem p) ≠ "" := by
      intro hsql
      have hchars : l.charsAt c.settings.paramStem p = [] := by
        simpa using congrArg String.toList hsql
      exact hl (hopens.eq_nil hfault hchars)
    rw [keywordClause_of_ne_nil hl, Compiled.withClause, writtenAt, writtenAt, if_neg hsql]
    simp [← String.toList_inj, hfront.charsAt_eq, hfront.after, Params.written, Params.after]

/-- **A condition by itself, and as a clause**: the statements fail alike, and else they differ in
the text in front of the condition. -/
theorem compile_clause (hfront : Fronts c.settings.paramStem head front) (hopens : l.Opens)
    (keyword : String) (params : Value) :
    c.compile params (front ++ keywordClause keyword l) =
      (c.compile params l).map (Compiled.withClause head keyword) := by
  have hclause : (front ++ keywordClause keyword l).fault? = l.fault? := by
    rw [fault?_append, hfront.fault?_eq, Option.none_or]
    by_cases hl : l = []
    · rw [hl]
      rfl
    · rw [keywordClause_of_ne_nil hl]
      rfl
  rw [compile_eq, compile_eq, hclause]
  cases (ofCaller params).fault? with
  | some f => rfl
  | none =>
    cases hfault : l.fault? with
    | some f => rfl
    | none => exact congrArg Except.ok (writtenAt_clause hfront hopens hfault keyword _)

end Connection

/-- The query that searches an index for rows or groups that a condition keeps. -/
def Query.keeping (name keyword : String) (tree : Value) : Value :=
  .map [(.text "FROM", .list [.text name]), (.text keyword, tree)]

namespace Connection

open Condition Layout

variable {c : Connection} {name : String}

/-- The beginning of a statement that searches an index. -/
def searchFront (c : Connection) (name : String) : Layout :=
  [.merge [], .text "SELECT ", .text "*", .text " ", .indexes [name], .text "FROM ",
    .text (c.quote name)]

theorem fronts_searchFront (stem : String) (c : Connection) (name : String) :
    Fronts stem ("SELECT * FROM " ++ c.quote name) (searchFront c name) where
  fault?_eq := rfl
  charsAt_eq p := by simp [searchFront, Params.written]
  after p := rfl

theorem fronts_text (stem text : String) : Fronts stem text [.text text] where
  fault?_eq := rfl
  charsAt_eq p := by simp [Params.written]
  after p := rfl

/-- A query with conditions only is its beginning and the conditions behind their keywords. -/
theorem queryLayout_conditions (hc : c.settings.separator = " ")
    (hblank : ∀ a ∈ name.toList, Text.isBlank a = false) (hplain : '(' ∉ name.toList)
    (tree having : Value) :
    c.queryLayout
        { Clauses.empty with source := .positional [.text name], condition := tree, having } =
      searchFront c name ++ (keywordClause "WHERE" (layoutOf c (c.known [name]) tree) ++
        keywordClause "HAVING" (layoutOf c (c.known [name]) having)) := by
  have hsource : Source.ofItems 0 [.text name] = [.index name none] := by
    simp [Source.ofItems, Source.ofEntry, Source.ofText_eq_of_notBlank hblank hplain]
  have hwritten : c.queryLayout
      { Clauses.empty with source := .positional [.text name], condition := tree, having } =
      .merge [] :: joinPresent " " [[.text "SELECT ", .text "*"],
        [.indexes [name], .text "FROM ", .text (c.quote name)],
        after "WHERE " (layoutOf c (c.known [name]) tree), [], [],
        after "HAVING " (layoutOf c (c.known [name]) having), [], [], [], []] := by
    simp only [queryLayout, Selection.ofQuery, Selection.layout, Source.listOf, hsource, hc]
    exact List.append_nil _
  rw [hwritten]
  generalize layoutOf c (c.known [name]) tree = l
  generalize layoutOf c (c.known [name]) having = m
  cases l <;> cases m <;> simp [joinPresent, after, keywordClause, searchFront]

theorem keywordClause_absent (keyword : String) (indexes : List Index) :
    keywordClause keyword (layoutOf c indexes .null) = [] := rfl

/-- A query with one condition is its beginning and the condition behind its keyword. -/
theorem exists_query_keeping (hc : c.settings.separator = " ")
    (hblank : ∀ a ∈ name.toList, Text.isBlank a = false) (hplain : '(' ∉ name.toList)
    {keyword : String} (hkeyword : keyword ∈ ["WHERE", "HAVING"]) (tree : Value) :
    ∃ q, Query.ofValue (Query.keeping name keyword tree) = .ok q ∧
      c.queryLayout q =
        searchFront c name ++ keywordClause keyword (layoutOf c (c.known [name]) tree) := by
  simp only [List.mem_cons, List.not_mem_nil, or_false] at hkeyword
  rcases hkeyword with rfl | rfl
  · refine ⟨{ Clauses.empty with source := .positional [.text name], condition := tree }, rfl, ?_⟩
    have hwritten := queryLayout_conditions hc hblank hplain tree .null
    rw [keywordClause_absent, List.append_nil] at hwritten
    exact hwritten
  · refine ⟨{ Clauses.empty with source := .positional [.text name], having := tree }, rfl, ?_⟩
    have hwritten := queryLayout_conditions hc hblank hplain .null tree
    rw [keywordClause_absent, List.nil_append] at hwritten
    exact hwritten

/-- A query is answered with its statement and the indexes that it searches. -/
theorem exists_answer_build {query params : Value} {q : Query}
    (hread : Query.ofValue query = .ok q) :
    ∃ names, c.answer (.build query params) =
      (c.compile params (c.queryLayout q)).map (Answer.selection · names) := by
  refine ⟨c.entities q params, ?_⟩
  rw [answer, hread]
  exact bind_pure_comp (Answer.selection · (c.entities q params)) (c.build q params)

theorem answer_delete (name : String) (tree params : Value) :
    c.answer (.delete (.text name) tree params) =
      (c.compile params ([.text ("DELETE FROM " ++ c.quote name)] ++
        keywordClause "WHERE" (layoutOf c (c.knownIndex (.text name)) tree))).map .statement := by
  have hlayout : ofDelete c (.text name) tree = [.text ("DELETE FROM " ++ c.quote name)] ++
      keywordClause "WHERE" (layoutOf c (c.knownIndex (.text name)) tree) := by
    rw [ofDelete_eq, List.append_nil]
    rfl
  rw [← hlayout]
  exact bind_pure_comp _ _

/-- **A condition is written alike in every place.** Let the name of an index have no blanks and no
parenthesis, and let clauses be separated by single spaces. A condition by itself, a deletion by it,
and a search for the rows or for the groups that it keeps fail alike; or all succeed with the same
parameters, and the texts of the others are their heads, followed by the keyword and the text of the
condition if that is not empty. -/
theorem condition_answers_alike (c : Connection) (hc : c.settings.separator = " ") {name : String}
    (hblank : ∀ a ∈ name.toList, Text.isBlank a = false) (hplain : '(' ∉ name.toList)
    (tree params : Value) :
    let alone := c.condition tree (.list [.text name]) params
    c.answer (.condition tree (.list [.text name]) params) = alone.map .statement ∧
      c.answer (.delete (.text name) tree params) = alone.map (fun k =>
        .statement (k.withClause ("DELETE FROM " ++ c.quote name) "WHERE")) ∧
      ∀ keyword ∈ ["WHERE", "HAVING"], ∃ names,
        c.answer (.build (Query.keeping name keyword tree) params) = alone.map (fun k =>
          .selection (k.withClause ("SELECT * FROM " ++ c.quote name) keyword) names) := by
  intro alone
  have halone : alone = c.compile params (layoutOf c (c.known [name]) tree) := rfl
  have hopens : (layoutOf c (c.known [name]) tree).Opens :=
    Condition.opens_layout c (c.known [name]) (ofValue tree)
  refine ⟨?_, ?_, fun keyword hkeyword => ?_⟩
  · exact bind_pure_comp _ _
  · have hclause := compile_clause (fronts_text c.settings.paramStem
      ("DELETE FROM " ++ c.quote name)) hopens "WHERE" params
    rw [answer_delete]
    change (c.compile params (_ ++ keywordClause _ (layoutOf c (c.known [name]) tree))).map _ = _
    rw [hclause, halone]
    cases c.compile params (layoutOf c (c.known [name]) tree) <;> rfl
  · have hclause := compile_clause (fronts_searchFront c.settings.paramStem c name) hopens
      keyword params
    obtain ⟨q, hread, hlayout⟩ := exists_query_keeping hc hblank hplain hkeyword tree
    obtain ⟨names, hanswer⟩ : ∃ names, c.answer (.build (Query.keeping name keyword tree) params) =
      _ := exists_answer_build hread
    refine ⟨names, ?_⟩
    rw [hanswer, hlayout, hclause, halone]
    cases c.compile params (layoutOf c (c.known [name]) tree) <;> rfl

/-- Rows with one of two identifiers, beside a leaf that always holds. -/
def someBooks : Value :=
  .list [.text "and", .map [(.text "id", .list [.int 1, .int 2])],
    .list [.text "not in", .text "shelf", .list []]]

theorem condition_answers_alike_books :
    standard.settings.separator = " " ∧ (∀ a ∈ "books".toList, Text.isBlank a = false) ∧
      '(' ∉ "books".toList ∧
      standard.answer (.condition someBooks (.list [.text "books"]) .null) = .ok (.statement
        ⟨"(id IN (:qp0, :qp1))", [(.text ":qp0", .int 1), (.text ":qp1", .int 2)], "sphinx"⟩) ∧
      standard.answer (.delete (.text "books") someBooks .null) = .ok (.statement
        ⟨"DELETE FROM books WHERE (id IN (:qp0, :qp1))",
          [(.text ":qp0", .int 1), (.text ":qp1", .int 2)], "sphinx"⟩) ∧
      ∃ names, standard.answer (.build (Query.keeping "books" "HAVING" someBooks) .null) =
        .ok (.selection ⟨"SELECT * FROM books HAVING (id IN (:qp0, :qp1))",
          [(.text ":qp0", .int 1), (.text ":qp1", .int 2)], "sphinx"⟩ names) := by
  have hblank : ∀ a ∈ "books".toList, Text.isBlank a = false := by
    simp [Text.isBlank, Text.isWhiteSpace]
  have hplain : '(' ∉ "books".toList := by decide
  obtain ⟨halone, hdelete, hkept⟩ :=
    condition_answers_alike standard rfl hblank hplain someBooks .null
  obtain ⟨names, hnames⟩ := hkept "HAVING" (by decide)
  have hwritten : standard.condition someBooks (.list [.text "books"]) .null = .ok
      ⟨"(id IN (:qp0, :qp1))", [(.text ":qp0", .int 1), (.text ":qp1", .int 2)], "sphinx"⟩ := by rfl
  rw [hwritten] at halone hdelete hnames
  exact ⟨rfl, hblank, hplain, halone, hdelete, names, hnames⟩

end Connection

end SearchSql

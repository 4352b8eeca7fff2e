import SearchSql.Proofs.Layout.Faults
import SearchSql.Proofs.Layout.History
import SearchSql.Proofs.Entities.Request
import SearchSql.Proofs.Phrase.Parts

/-!
# Statements that are completed later

A caller may have a query written without an order and without a window of rows, and have both
written behind the text afterwards. Nothing is bound in an order or in a window, so it does not
matter that the second call knows nothing of the parameters of the first: the text is that of the
whole query, and the names that were generated for it, with their values, are those of the first
call.

## Main definitions

* `Layout.generated` — the names that are generated, by their numbers, with the values.
* `Query.unordered` — a query without its order and its window.
* `Query.orderParams` — the parameters that raw fragments bring into an order.

## Main statements

* `Layout.charsAt_eq_of_binds_eq_nil`, `Layout.paramsAfter_eq_of_binds_eq_nil` — layouts that bind
  nothing.
* `Selection.layout_eq_append_ending` — a selection and what stands behind it.
* `Connection.orderAndWindow_completes` — a query in two calls and in one.
-/
namespace SearchSql

/-! ## Layouts that bind nothing -/

namespace Layout

variable {stem : String}

/-- The names that are generated, by their numbers, with the values, the last one first. -/
def generated (stem : String) (l : Layout) : List (Nat × Value) :=
  (l.foldl (History.after stem) .start).generated

/-- What binds nothing is written alike behind all parameters. -/
theorem charsAt_eq_of_binds_eq_nil {l : Layout} (h : l.binds = []) (p q : Params) :
    l.charsAt stem p = l.charsAt stem q := by
  induction l generalizing p q with
  | nil => rfl
  | cons piece l ih =>
    cases piece with
    | bind v => cases h
    | text | merge | indexes | fault => exact congrArg (_ ++ ·) (ih h _ _)

/-- What binds nothing only adds parameters that have names of their own. -/
theorem paramsAfter_eq_of_binds_eq_nil {l : Layout} (h : l.binds = []) (p : Params) :
    l.paramsAfter stem p = ⟨l.merges.foldl Mapping.merge p.entries⟩ := by
  induction l generalizing p with
  | nil => rfl
  | cons piece l ih =>
    cases piece with
    | bind v => cases h
    | text | merge | indexes | fault => exact ih h _

/-- What binds nothing generates no names. -/
theorem generated_append_of_binds_eq_nil (l : Layout) {r : Layout} (h : r.binds = []) :
    (l ++ r).generated stem = l.generated stem := by
  rw [generated, List.foldl_append, generated]
  generalize l.foldl (History.after stem) .start = history
  induction r generalizing history with
  | nil => rfl
  | cons piece r ih =>
    cases piece with
    | bind v => cases h
    | text | merge | indexes | fault => exact ih h _

end Layout

/-! ## What stands behind a selection -/

/-- The parameters that a raw fragment brings into an order. -/
def OrderTerm.params? : OrderTerm → Option Mapping
  | .raw _ params => some params
  | .column .. | .unwritable => none

namespace Layout

variable (c : Connection) (terms : List OrderTerm) (limit offset : Value)

/-- An order and a window, behind something else if there is any of them. -/
def ending : Layout :=
  after c.settings.separator
    (joinPresent c.settings.separator [ofOrder c terms, ofWindow c limit offset])

/-- What is found in the ending is found in the parts of the order. -/
theorem flatMap_ending {α : Type} {find : Piece → List α} (htext : ∀ s, find (.text s) = [])
    (hfault : ∀ f, find (.fault f) = []) : (ending c terms limit offset).flatMap find =
      terms.flatMap fun term => (ofOrderTerm c true term).flatMap find := by
  have hwindow : (ofWindow c limit offset).flatMap find = [] := by
    rw [ofWindow]
    split
    · rw [ofText]
      split
      · rfl
      · rw [List.flatMap_singleton, htext]
    · rw [List.flatMap_singleton, hfault]
  have horder : (ofOrder c terms).flatMap find =
      terms.flatMap fun term => (ofOrderTerm c true term).flatMap find := by
    rw [ofOrder, ofOrdering]
    split
    · rename_i hempty
      rw [List.isEmpty_iff.1 hempty]
      rfl
    · rw [List.flatMap_cons, htext, List.nil_append, flatMap_join htext, List.flatMap_map]
  rw [ending, flatMap_after htext, flatMap_joinPresent htext, List.flatMap_cons,
    List.flatMap_singleton, horder, hwindow, List.append_nil]

/-- Nothing is bound in an ending. -/
theorem binds_ending : (ending c terms limit offset).binds = [] := by
  rw [binds, List.filterMap_eq_flatMap_toList, flatMap_ending _ _ _ _ (fun _ => rfl) fun _ => rfl,
    List.flatMap_eq_nil_iff]
  rintro (⟨_, _ | _⟩ | _ | _) - <;> rfl

/-- No index is searched in an ending. -/
theorem searched_ending : (ending c terms limit offset).searched = [] := by
  rw [searched, flatMap_ending _ _ _ _ (fun _ => rfl) fun _ => rfl, List.flatMap_eq_nil_iff]
  rintro (⟨_, _ | _⟩ | _ | _) - <;> rfl

/-- The parameters of an ending are those of the raw fragments in the order. -/
theorem merges_ending :
    (ending c terms limit offset).merges = terms.filterMap OrderTerm.params? := by
  rw [merges, List.filterMap_eq_flatMap_toList, flatMap_ending _ _ _ _ (fun _ => rfl) fun _ => rfl,
    List.filterMap_eq_flatMap_toList]
  congr 1
  funext term
  rcases term with ⟨_, _ | _⟩ | _ | _ <;> rfl

end Layout

namespace Selection

variable (c : Connection) {s : Selection}

/-- The clauses of a selection without options and facets: those up to the order, and the ending. -/
theorem joinPresent_clauses (hoptions : s.options = []) (hfacets : s.facets = []) :
    Layout.joinPresent c.settings.separator (s.clauses c) =
      Layout.joinPresent c.settings.separator ((s.clauses c).take 6) ++
        Layout.ending c s.order s.limit s.offset := by
  have hsplit : s.clauses c = (s.clauses c).take 6 ++ [Layout.ofOrder c s.order,
      Layout.ofWindow c s.limit s.offset, Layout.ofOptions s.options, Layout.ofFacets c s.facets] :=
    rfl
  have hselect : ∃ l ∈ (s.clauses c).take 6, l ≠ [] :=
    ⟨_, List.mem_cons_self .., List.cons_ne_nil _ _⟩
  generalize (s.clauses c).take 6 = front at hsplit hselect ⊢
  have hleftOut : Layout.joinPresent c.settings.separator (s.clauses c) =
      Layout.joinPresent c.settings.separator (front ++
        [Layout.ofOrder c s.order, Layout.ofWindow c s.limit s.offset]) := by
    apply Layout.joinPresent_congr
    rw [hsplit, hoptions, hfacets, List.filter_append, List.filter_append]
    rfl
  rw [hleftOut, Layout.joinPresent_append hselect, Layout.ending]

/-- **A selection is one without order and window, and what stands behind it.** -/
theorem layout_eq_append_ending (hjoined : s.isJoined = false) (hoptions : s.options = [])
    (hfacets : s.facets = []) :
    s.layout c = ({ s with order := [], limit := .null, offset := .null } : Selection).layout c ++
      Layout.ending c s.order s.limit s.offset := by
  have hbare := joinPresent_clauses c (s := { s with order := [], limit := .null, offset := .null })
    hoptions hfacets
  have hnone : Layout.ending c [] .null .null = [] := rfl
  rw [hnone, List.append_nil] at hbare
  rw [layout_eq, layout_eq, if_neg (by simp [hjoined]), if_neg (by simp [hjoined]), hbare,
    joinPresent_clauses c hoptions hfacets]
  rfl

end Selection

/-- A query without its order and its window of rows. -/
def Query.unordered (q : Query) : Query := { q with orderBy := [], limit := none, offset := none }

/-- The parameters that raw fragments bring into the order of a query. -/
def Query.orderParams (q : Query) : List Mapping :=
  q.orderBy.filterMap fun term => match term.2 with
    | .raw _ params => some params
    | _ => none

/-- The order of a query as a value is read as the order of the query. -/
theorem OrderTerm.listOf_ofNamed (pairs : List (String × Value)) :
    listOf (.map (Value.ofNamed pairs)) =
      .ok (pairs.map fun (name, v) => OrderTerm.ofPair name v) := by
  rw [OrderTerm.listOf]
  split
  · rename_i hfalsy
    have hempty : pairs = [] := by simpa [Value.truthy, Value.ofNamed] using hfalsy
    rw [hempty]
    rfl
  · have hentry (name : String) (v : Value) : ofEntry (.text name) v = ofPair name v := by
      cases v <;> rfl
    simp [Value.ofNamed, hentry]

theorem Query.filterMap_params? (q : Query) :
    (Selection.ofQuery q).order.filterMap OrderTerm.params? = q.orderParams := by
  rw [Selection.ofQuery_order, List.filterMap_map, orderParams]
  congr 1
  funext ⟨name, v⟩
  cases v <;> rfl

/-- A name that no mapping has keeps its value when they are put in. -/
theorem Mapping.named?_foldl_merge {given : List Mapping} {name : String}
    (h : ∀ params ∈ given, .text name ∉ params.keys) (m : Mapping) :
    (given.foldl merge m).named? name = m.named? name := by
  induction given generalizing m with
  | nil => rfl
  | cons params rest ih =>
    obtain ⟨hparams, hrest⟩ := List.forall_mem_cons.1 h
    rw [List.foldl_cons, ih hrest, named?_merge_of_notMem hparams]

namespace Connection

variable (c : Connection)

theorem queryLayout_eq_append_ending {q : Query} (hjoins : q.joins.isEmpty = true)
    (hoptions : q.options = []) (hfacets : q.facets.toEntries = [])
    (hmeta : q.showMeta.truthy = false) :
    c.queryLayout q = c.queryLayout q.unordered ++
      Layout.ending c (Selection.ofQuery q).order (Value.ofCount q.limit)
        (Value.ofCount q.offset) := by
  have hbare : Selection.ofQuery q.unordered =
      { Selection.ofQuery q with order := [], limit := .null, offset := .null } := by
    rw [Selection.ofQuery_eq, Selection.ofQuery_eq]
    rfl
  have hnoMeta : Layout.ofShowMeta c q.showMeta = [] := by
    unfold Layout.ofShowMeta
    rw [hmeta]
    rfl
  have hcounts : (Selection.ofQuery q).limit = Value.ofCount q.limit ∧
      (Selection.ofQuery q).offset = Value.ofCount q.offset := by
    rw [Selection.ofQuery_eq]
    exact ⟨rfl, rfl⟩
  have hlayout := Selection.layout_eq_append_ending c (s := Selection.ofQuery q)
    (by rw [Selection.ofQuery_isJoined, hjoins]; rfl)
    (by rw [Selection.ofQuery_options, hoptions])
    (by rw [Selection.ofQuery_facets, hfacets]; rfl)
  rw [hcounts.1, hcounts.2, ← hbare] at hlayout
  have hmetaBare : Layout.ofShowMeta c q.unordered.showMeta = [] := hnoMeta
  rw [queryLayout, queryLayout, hnoMeta, hmetaBare, hlayout, Layout.after_nil, List.append_nil,
    List.append_nil]

/-- The second call writes the ending behind the text that it is given. -/
theorem orderAndWindow_eq {order limit offset : Value} {terms : List OrderTerm}
    (horder : OrderTerm.listOf order = .ok terms)
    (hsound : (Layout.ending c terms limit offset).Sound) (sql : String) (p : Params) :
    c.orderAndWindow (.text sql) order limit offset = .ok (.text (sql ++
      String.ofList ((Layout.ending c terms limit offset).charsAt c.settings.paramStem p))) := by
  have hwritten : c.clause (Layout.ofTexts [sql] ++ Layout.ending c terms limit offset) =
      .ok (sql ++
        String.ofList ((Layout.ending c terms limit offset).charsAt c.settings.paramStem p)) := by
    rw [clause_eq, Layout.fault?_append, Layout.fault?_ofTexts, Layout.fault?_eq_none_iff.2 hsound,
      Layout.charsAt_append, Layout.charsAt_ofTexts,
      Layout.charsAt_eq_of_binds_eq_nil (Layout.binds_ending ..) _ p, String.ofList_append,
      String.ofList_toList]
    simp
  have hending : Layout.ending c terms limit offset = Layout.after c.settings.separator
      (Layout.join c.settings.separator ([Layout.ofOrder c terms,
        Layout.ofWindow c limit offset].filter (!·.isEmpty))) := rfl
  have hpresent : ∀ l ∈ [Layout.ofOrder c terms, Layout.ofWindow c limit offset].filter
      (!·.isEmpty), l ≠ [] := fun l hl => by simpa using (List.mem_filter.1 hl).2
  simp only [orderAndWindow, horder, bind, Except.bind]
  generalize [Layout.ofOrder c terms, Layout.ofWindow c limit offset].filter (!·.isEmpty) = clauses
    at hending hpresent ⊢
  cases clauses with
  | nil =>
    rw [hending]
    exact congrArg (fun s => Except.ok (Value.text s)) String.append_empty.symm
  | cons first rest =>
    have hjoin : Layout.join c.settings.separator ([.text sql] :: first :: rest) =
        Layout.ofTexts [sql] ++ Layout.ending c terms limit offset := by
      have hne : Layout.join c.settings.separator (first :: rest) ≠ [] :=
        Layout.join_ne_nil (hpresent first (List.mem_cons_self ..)) rest
      rw [hending, Layout.after, if_neg (by simpa using hne)]
      rfl
    simp only [Value.shown_text, hjoin, hwritten]
    rfl

/-- A statement that can be written is joined to nothing. -/
theorem isEmpty_joins_of_sound {q : Query} (h : (c.queryLayout q).Sound) :
    q.joins.isEmpty = true := by
  have hlayout : ((Selection.ofQuery q).layout c).Sound := (Layout.sound_append.1 h).1
  rw [Selection.layout_eq, Selection.ofQuery_isJoined] at hlayout
  cases hjoins : q.joins.isEmpty with
  | true => rfl
  | false => simp [hjoins, Piece.isFault] at hlayout

theorem compile_of_sound {params : Value} {l : Layout} (h : (Layout.ofCaller params ++ l).Sound) :
    c.compile params l = .ok (c.writtenAt l (c.startOf params)) := by
  rw [compile_eq, ← Layout.fault?_append, Layout.fault?_eq_none_iff.2 h, Option.elim_none]

/-- **A query in two calls and in one.** If nothing stands behind the window of rows, the text of
a query is that of the query without its order and its window, with these written behind it by a
call of its own. The first call generates all names, with the same values; only the raw fragments
in the order bring further parameters. -/
theorem orderAndWindow_completes {q : Query} (hoptions : q.options = [])
    (hfacets : q.facets.toEntries = []) (hmeta : q.showMeta.truthy = false) {params : Value}
    {k : Compiled} {names : List String}
    (h : c.answer (.build (.query q) params) = .ok (.selection k names)) :
    ∃ start, c.answer (.build (.query q.unordered) params) = .ok (.selection start names) ∧
      c.answer (.orderAndWindow (.text start.sql) (.map (Value.ofNamed q.orderBy))
        (Value.ofCount q.limit) (Value.ofCount q.offset)) = .ok (.text (.text k.sql)) ∧
      (Layout.ofCaller params ++ c.queryLayout q).generated c.settings.paramStem =
        (Layout.ofCaller params ++ c.queryLayout q.unordered).generated c.settings.paramStem ∧
      k.params = q.orderParams.foldl Mapping.merge start.params ∧
      ∀ name, (∀ given ∈ q.orderParams, .text name ∉ given.keys) →
        k.params.named? name = start.params.named? name := by
  obtain ⟨_, hq, hbuild, rfl⟩ := answer_build_eq_ok_iff.1 h
  obtain rfl := Except.ok.inj hq
  obtain ⟨hsound, -, -, -⟩ := c.compile_eq_ok_iff.1 hbuild
  have hlayout := c.queryLayout_eq_append_ending
    (c.isEmpty_joins_of_sound (Layout.sound_append.1 hsound).2) hoptions hfacets hmeta
  have hwhole := c.compile_of_sound hsound
  rw [hlayout, ← List.append_assoc] at hsound
  obtain ⟨hstart, hending⟩ := Layout.sound_append.1 hsound
  obtain rfl := Except.ok.inj (hbuild.symm.trans hwhole)
  have hterms := OrderTerm.listOf_ofNamed q.orderBy
  rw [← Selection.ofQuery_order] at hterms
  have hbinds := Layout.binds_ending c (Selection.ofQuery q).order (Value.ofCount q.limit)
    (Value.ofCount q.offset)
  have hmerges := Layout.merges_ending c (Selection.ofQuery q).order (Value.ofCount q.limit)
    (Value.ofCount q.offset)
  have hparams : (c.writtenAt (c.queryLayout q) (c.startOf params)).params =
      q.orderParams.foldl Mapping.merge
        (c.writtenAt (c.queryLayout q.unordered) (c.startOf params)).params := by
    rw [hlayout, writtenAt, Layout.paramsAfter_append, Layout.paramsAfter_eq_of_binds_eq_nil hbinds,
      hmerges, Query.filterMap_params?]
    rfl
  refine ⟨c.writtenAt (c.queryLayout q.unordered) (c.startOf params), ?_, ?_, ?_, hparams, ?_⟩
  · refine answer_build_eq_ok_iff.2 ⟨q.unordered, rfl, c.compile_of_sound hstart, ?_⟩
    rw [entities, entities, hlayout, ← List.append_assoc, Layout.indexes_eq_searched hstart,
      Layout.indexes_eq_searched hsound, Layout.searched_append _ (Layout.ending ..),
      Layout.searched_ending, List.append_nil]
  · have hcall := c.orderAndWindow_eq hterms hending
      (c.writtenAt (c.queryLayout q.unordered) (c.startOf params)).sql
      ((c.queryLayout q.unordered).paramsAfter c.settings.paramStem (c.startOf params))
    rw [answer, hcall, hlayout, writtenAt, writtenAt, Layout.charsAt_append, String.ofList_append]
    rfl
  · rw [hlayout, ← List.append_assoc, Layout.generated_append_of_binds_eq_nil _ hbinds]
  · intro name hname
    rw [hparams, Mapping.named?_foldl_merge hname]

/-- The books of two years, ordered by their titles and by a weighted rank, from the third on. -/
def weightedBooks : Query :=
  { Clauses.empty with
    source := .positional [.text "books"]
    condition := .map [(.text "year", .list [.int 1990, .int 1991])]
    orderBy := [("title", .text "desc"), ("rank", .raw "WEIGHT() * :w" [(.text ":w", .int 3)])]
    limit := some (.number 10)
    offset := some (.text "2") }

theorem orderAndWindow_completes_weightedBooks :
    weightedBooks.options = [] ∧ weightedBooks.facets.toEntries = [] ∧
      weightedBooks.showMeta.truthy = false ∧
      ∃ k names start, standard.answer (.build (.query weightedBooks) .null) =
          .ok (.selection k names) ∧
        k.sql = "SELECT * FROM books WHERE year IN (:qp0, :qp1) " ++
          "ORDER BY title DESC, WEIGHT() * :w LIMIT 2,10" ∧
        standard.answer (.build (.query weightedBooks.unordered) .null) =
          .ok (.selection start names) ∧
        standard.answer (.orderAndWindow (.text start.sql)
          (.map (Value.ofNamed weightedBooks.orderBy)) (.int 10) (.text "2")) =
          .ok (.text (.text k.sql)) ∧
        k.params = start.params.merge [(.text ":w", .int 3)] := by
  have hbuild : standard.answer (.build (.query weightedBooks) .null) = .ok (.selection
      ⟨"SELECT * FROM books WHERE year IN (:qp0, :qp1) " ++
          "ORDER BY title DESC, WEIGHT() * :w LIMIT 2,10",
        [(.text ":qp0", .int 1990), (.text ":qp1", .int 1991), (.text ":w", .int 3)], "sphinx"⟩
      ["books"]) := by rfl
  obtain ⟨start, hstart, hcall, -, hparams, -⟩ :=
    orderAndWindow_completes standard rfl rfl rfl hbuild
  exact ⟨rfl, rfl, rfl, _, _, start, hbuild, rfl, hstart, hcall, hparams⟩

end Connection

end SearchSql

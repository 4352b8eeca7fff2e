import SearchSql.Proofs.Layout.Gathering
import SearchSql.Proofs.Subquery.Nesting

/-!
# Indexes that are met in a layout

Only the clause for the sources of a query names the indexes that are searched. So what is met in
a layout that is put together is what is met in its parts, one after the other, and in the other
clauses nothing is met but what nested queries search.

## Main definitions

* `Layout.searched`, `Layout.searchedNames` — the names of the indexes that are met.
* `Entry.index?`, `Query.indexNames` — the indexes that the entries of a query name.
* `Layout.Reaches`, `Layout.EachReaches` — what is met in layouts, and the queries in them.

## Main statements

* `Layout.indexes_eq_searched` — nothing is met twice or left out.
* `Layout.EachReaches.join`, `Layout.EachReaches.connect` — layouts that are put together.
-/
namespace SearchSql

/-- The names of the indexes that are met at a piece. -/
def Piece.searched : Piece → List String
  | .indexes names => names
  | _ => []

namespace Layout

/-- The names of the indexes that are met in a layout; faults are passed over. -/
def searched (l : Layout) : List String := l.flatMap Piece.searched

@[simp] theorem searched_nil : searched [] = [] := rfl

@[simp] theorem searched_cons (piece : Piece) (l : Layout) :
    searched (piece :: l) = piece.searched ++ l.searched :=
  List.flatMap_cons

@[simp] theorem searched_append (l r : Layout) : (l ++ r).searched = l.searched ++ r.searched :=
  List.flatMap_append

/-- What is met in a layout that can be written. -/
theorem indexes_eq_searched {l : Layout} (h : l.Sound) : l.indexes = l.searched := by
  induction l with
  | nil => rfl
  | cons piece l ih =>
    obtain ⟨hpiece, hl⟩ := sound_cons.1 h
    cases piece with
    | fault f => simp [Piece.isFault] at hpiece
    | _ => simp [indexes, Piece.searched, ih hl]

/-- Names of indexes are looked for. -/
def searchedNames : Finder String where
  find := Piece.searched
  find_text _ := rfl
  find_bind_text _ := rfl
  find_merge _ := rfl
  find_misuse _ := rfl

/-! ## Layouts that are put together -/

@[simp] theorem searched_enclose (opening : String) (l : Layout) (closing : String) :
    (enclose opening l closing).searched = l.searched :=
  searchedNames.gather_enclose ..

@[simp] theorem searched_after (opening : String) (l : Layout) :
    (after opening l).searched = l.searched :=
  searchedNames.gather_after ..

@[simp] theorem searched_negate (l : Layout) : l.negate.searched = l.searched :=
  searchedNames.gather_negate l

@[simp] theorem searched_join (separator : String) (ls : List Layout) :
    (join separator ls).searched = ls.flatMap searched :=
  searchedNames.gather_join ..

@[simp] theorem searched_connect (word : String) (ls : List Layout) :
    (connect word ls).searched = ls.flatMap searched :=
  searchedNames.gather_connect ..

@[simp] theorem searched_ofRecord (ls : List Layout) :
    (ofRecord ls).searched = ls.flatMap searched :=
  searchedNames.gather_ofRecord ls

/-! ## Values and clauses -/

@[simp] theorem searched_naming (names : List Value) : (naming names).searched = [] :=
  searchedNames.gather_naming names

@[simp] theorem searched_ofText (s : String) : (ofText s).searched = [] :=
  searchedNames.gather_ofText s

@[simp] theorem searched_ofBound (column : Option Column) (v : Value) :
    (ofBound column v).searched = [] := by
  cases v with
  | raw => rfl
  | _ =>
    simp only [ofBound]
    split <;> rfl

@[simp] theorem searched_ofPlain (v : Value) : (ofPlain v).searched = [] := by
  cases v <;> rfl

@[simp] theorem searched_ofCompared (v : Value) : (ofCompared v).searched = [] := by
  cases v <;> rfl

@[simp] theorem searched_ofMembers (column : Option Column) (v : Value) (items : List Value) :
    (ofMembers column v items).searched = [] := by
  unfold ofMembers
  split
  · exact searched_ofBound ..
  · simp [List.flatMap_map]

@[simp] theorem searched_ofValue (indexes : List Index) (column v : Value) :
    (ofValue indexes column v).searched = [] := by
  cases v with
  | null | raw | query => rfl
  | list | tuple | set => exact searched_ofMembers ..
  | _ =>
    simp only [ofValue]
    exact searched_ofBound ..

@[simp] theorem searched_ofChecked (indexes : List Index) (column : Value) (v : Checked Value) :
    (ofChecked indexes column v).searched = [] := by
  cases v with
  | ok v => exact searched_ofValue ..
  | error f => rfl

@[simp] theorem searched_ofPattern (table v : Value) : (ofPattern table v).searched = [] := by
  cases v with
  | raw => rfl
  | _ =>
    simp only [ofPattern]
    split <;> rfl

mutual

@[simp] theorem searched_ofOption (v : Value) : (ofOption v).searched = [] := by
  match v with
  | .map pairs => rw [ofOption, searched_enclose, searched_join, searched_ofOptionPairs pairs]
  | .list items | .tuple items =>
    rw [ofOption, searched_enclose, searched_join, searched_ofOptionItems items]
  | .raw _ _ | .null | .bool _ | .int _ | .float _ | .text _ | .bytes _ | .buffer _ | .set _
  | .query _ => rfl

theorem searched_ofOptionItems (items : List Value) :
    (ofOptionItems items).flatMap searched = [] := by
  match items with
  | [] => rfl
  | v :: rest =>
    rw [ofOptionItems, List.flatMap_cons, searched_ofOption v, searched_ofOptionItems rest,
      List.append_nil]

theorem searched_ofOptionPairs (pairs : List (Value × Value)) :
    (ofOptionPairs pairs).flatMap searched = [] := by
  match pairs with
  | [] => rfl
  | (key, v) :: rest =>
    have hv := searched_ofOption v
    have hrest := searched_ofOptionPairs rest
    cases key <;> simp [ofOptionPairs, Piece.searched, hv, hrest]

end

variable (c : Connection)

@[simp] theorem searched_ofFacet (facet : Checked Facet) : (ofFacet c facet).searched = [] := by
  cases facet with
  | error f => rfl
  | ok facet =>
    have horder : searchedNames.gather (ofCheckedOrder c facet.order) = [] := by
      cases facet.order with
      | ok terms => exact searchedNames.gather_ofOrdering ..
      | error f => rfl
    have hfacet : searchedNames.gather (ofFacet c (.ok facet)) = [] := by
      simp [ofFacet, horder]
    exact hfacet

theorem searched_ofShown (v : Value) {layout : String → Layout}
    (h : ∀ s, (layout s).searched = []) : (ofShown v layout).searched = [] :=
  searchedNames.gather_ofShown v h

@[simp] theorem searched_ofShowMeta (v : Value) : (ofShowMeta c v).searched = [] := by
  have hshown (v : Value) : searched (.text "SHOW META LIKE " :: ofShown v fun s =>
      ofPattern (Like.tableValue c.settings.likeEscape) (.text s)) = [] := by
    simp [Piece.searched, searched_ofShown]
  unfold ofShowMeta
  split
  · rfl
  · cases v with
    | bool | raw => rfl
    | _ => exact hshown _

theorem searched_ofCaller (v : Value) : (ofCaller v).searched = [] :=
  searchedNames.gather_ofCaller v

/-! ## Conditions -/

theorem searched_ofMembership (negated : Bool) (column : Value) {ls : List Layout}
    (h : ∀ l ∈ ls, l.searched = []) : (ofMembership c negated column ls).searched = [] :=
  (searchedNames.gather_ofMembership ..).trans (List.flatMap_eq_nil_iff.2 h)

theorem searched_ofRows (negated : Bool) (columns : List Value) {ls : List Layout}
    (h : ∀ l ∈ ls, l.searched = []) : (ofRows c negated columns ls).searched = [] :=
  (searchedNames.gather_ofRows ..).trans (List.flatMap_eq_nil_iff.2 h)

theorem searched_ofPatterns (negated any : Bool) (column : Value) (escape : Option Value)
    (patterns : List Value) :
    (ofPatterns c negated any column escape patterns).searched = [] := by
  simp [ofPatterns, List.flatMap_map, Piece.searched]

/-! ## Queries in layouts -/

end Layout

/-- The index that an entry names, and its label: a text without a parenthesis. The label is the
key of the entry, or it stands at the end of the text. -/
def Entry.index? : Entry → Option (String × Option String)
  | (key, .text s) =>
    if hasParenthesis s then none
    else match key, Label.ofSource? s with
      | some label, _ => some (s, some label)
      | none, some (name, label) => some (name, some label)
      | none, none => some (s, none)
  | _ => none

/-- The names of the indexes among the sources of a query, in order. -/
def Query.indexNames (q : Query) : List String :=
  (q.source.toEntries.filterMap Entry.index?).map Prod.fst

namespace Layout

variable (c : Connection)

/-- What is met in a layout are the indexes of some queries, which stand in it. -/
structure Reaches (queries : List Query) (l : Layout) : Prop where
  /-- The indexes of the queries are met in their order. -/
  searched_eq : l.searched = queries.flatMap Query.indexNames
  /-- The queries are laid out as they are by themselves. -/
  infix_layout : ∀ q ∈ queries, q.layout c <:+: l

/-- What is met in layouts one after the other are the indexes of some queries, which stand in
them. -/
structure EachReaches (queries : List Query) (ls : List Layout) : Prop where
  /-- The indexes of the queries are met in their order. -/
  searched_eq : ls.flatMap searched = queries.flatMap Query.indexNames
  /-- The queries are laid out as they are by themselves. -/
  exists_infix_layout : ∀ q ∈ queries, ∃ l ∈ ls, q.layout c <:+: l

variable {c} {queries others : List Query} {l l' : Layout} {ls : List Layout}

/-- A layout in which no index is met. -/
theorem Reaches.fixed (h : l.searched = []) : Reaches c [] l := ⟨h, List.forall_mem_nil _⟩

/-- A layout around another one, in which no more is met. -/
theorem Reaches.around (h : Reaches c queries l) (hin : l <:+: l')
    (hsearched : l'.searched = l.searched) : Reaches c queries l' :=
  ⟨hsearched.trans h.searched_eq, fun q hq => (h.infix_layout q hq).trans hin⟩

theorem Reaches.named (h : Reaches c queries l) (names : List Value) :
    Reaches c queries (l ++ naming names) :=
  h.around (List.prefix_append ..).isInfix (by simp)

theorem Reaches.enclose (h : Reaches c queries l) (opening closing : String) :
    Reaches c queries (enclose opening l closing) :=
  h.around (infix_enclose ..) (searched_enclose ..)

namespace EachReaches

theorem nil : EachReaches c [] [] := ⟨rfl, List.forall_mem_nil _⟩

theorem cons (hl : Reaches c queries l) (hls : EachReaches c others ls) :
    EachReaches c (queries ++ others) (l :: ls) where
  searched_eq := by
    rw [List.flatMap_cons, List.flatMap_append, hl.searched_eq, hls.searched_eq]
  exists_infix_layout q hq := by
    rcases List.mem_append.1 hq with hq | hq
    · exact ⟨l, List.mem_cons_self .., hl.infix_layout q hq⟩
    · obtain ⟨l', hmem, hin⟩ := hls.exists_infix_layout q hq
      exact ⟨l', List.mem_cons_of_mem _ hmem, hin⟩

/-- Layouts that are put together, with nothing more that is met. -/
theorem together (h : EachReaches c queries ls) (hin : ∀ l ∈ ls, l <:+: l')
    (hsearched : l'.searched = ls.flatMap searched) : Reaches c queries l' where
  searched_eq := hsearched.trans h.searched_eq
  infix_layout q hq := by
    obtain ⟨l, hmem, hql⟩ := h.exists_infix_layout q hq
    exact hql.trans (hin l hmem)

theorem join (separator : String) (h : EachReaches c queries ls) :
    Reaches c queries (join separator ls) :=
  h.together (fun _ => infix_join separator) (searched_join ..)

theorem connect (word : String) (h : EachReaches c queries ls) :
    Reaches c queries (connect word ls) :=
  h.together (fun _ => infix_connect word) (searched_connect ..)

theorem ofRecord (h : EachReaches c queries ls) : Reaches c queries (ofRecord ls) :=
  h.together (fun _ => infix_ofRecord) (searched_ofRecord ls)

end EachReaches

end Layout

end SearchSql

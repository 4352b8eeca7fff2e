import SearchSql.Numeral.Count
import SearchSql.Proofs.Dialect.Basic

/-!
# Values and clauses without back-quotes

Values are laid out in the same way in every dialect. In a clause only names differ, and
without back-quotes they stand as they were given.

## Main definitions

* `Leaf.AllBare` — no back-quote is supplied.

## Main statements

* `Layout.unquoted_ofValue` — the value of a column.
* `Layout.unquoted_ofFields`, `Layout.unquoted_ofOrdering`, `Layout.unquoted_ofFacets` — clauses.
-/
namespace SearchSql

namespace Leaf

/-- No back-quote stands in the texts that are supplied. -/
def AllBare (leaves : List Leaf) : Prop := ∀ leaf ∈ leaves, leaf.Bare

@[simp] theorem bare_quoted {s : String} : (quoted s).Bare ↔ SearchSql.Bare s := Iff.rfl

@[simp] theorem bare_verbatim {s : String} : (verbatim s).Bare ↔ SearchSql.Bare s := Iff.rfl

@[simp] theorem bare_given (params : Mapping) : (given params).Bare := trivial

@[simp] theorem bare_bound (v : Value) : (bound v).Bare := trivial

@[simp] theorem allBare_nil : AllBare [] := by simp [AllBare]

@[simp] theorem allBare_cons {leaf : Leaf} {rest : List Leaf} :
    AllBare (leaf :: rest) ↔ leaf.Bare ∧ AllBare rest :=
  List.forall_mem_cons

@[simp] theorem allBare_append {front back : List Leaf} :
    AllBare (front ++ back) ↔ AllBare front ∧ AllBare back :=
  List.forall_mem_append

@[simp] theorem allBare_flatMap {α : Type} {f : α → List Leaf} {items : List α} :
    AllBare (items.flatMap f) ↔ ∀ item ∈ items, AllBare (f item) := by
  simp only [AllBare, List.mem_flatMap]
  exact ⟨fun h item hitem leaf hleaf => h leaf ⟨item, hitem, hleaf⟩,
    fun h leaf ⟨item, hitem, hleaf⟩ => h item hitem leaf hleaf⟩

@[simp] theorem allBare_map {α : Type} {f : α → Leaf} {items : List α} :
    AllBare (items.map f) ↔ ∀ item ∈ items, (f item).Bare :=
  List.forall_mem_map

end Leaf

namespace Layout

open Leaf (AllBare)

/-! ## Values -/

@[simp] theorem unquoted_ofRaw {sql : String} (params : Mapping) (h : Bare sql) :
    (ofRaw sql params).unquoted = ofRaw sql params := by
  simp [ofRaw, Piece.unquoted, unquote_of_bare h]

theorem unquoted_ofText {s : String} (h : Bare s) : (ofText s).unquoted = ofText s := by
  rw [ofText]
  split
  · rfl
  · simp [Piece.unquoted, unquote_of_bare h]

theorem unquoted_ofBound {column : Option Column} {v : Value}
    (h : AllBare (Leaf.ofBound column v)) : (ofBound column v).unquoted = ofBound column v := by
  cases v with
  | raw sql params => exact unquoted_ofRaw params (by simpa [Leaf.ofBound, Leaf.ofRaw] using h)
  | _ =>
    simp only [ofBound]
    split <;> rfl

theorem unquoted_ofPlain {v : Value} (h : AllBare (Leaf.ofPlain v)) :
    (ofPlain v).unquoted = ofPlain v := by
  cases v with
  | raw sql params => exact unquoted_ofRaw params (by simpa [Leaf.ofPlain, Leaf.ofRaw] using h)
  | _ => rfl

theorem unquoted_ofCompared {v : Value} (h : AllBare (Leaf.ofCompared v)) :
    (ofCompared v).unquoted = ofCompared v := by
  cases v with
  | null => rfl
  | _ =>
    simp only [Leaf.ofCompared, ofCompared] at h ⊢
    exact unquoted_ofPlain h

/-- Layouts that have no back-quotes, side by side. -/
theorem map_unquoted {α : Type} {f g : α → Layout} {s : List α}
    (h : ∀ a ∈ s, (f a).unquoted = g a) : (s.map f).map unquoted = s.map g := by
  rw [List.map_map]
  exact List.map_congr_left h

theorem unquoted_ofMembers {column : Option Column} {v : Value} {items : List Value}
    (h : AllBare (Leaf.ofMembers column v items)) :
    (ofMembers column v items).unquoted = ofMembers column v items := by
  unfold ofMembers
  split
  · exact unquoted_ofBound h
  · rename_i hjson
    have hitems : ∀ v ∈ items, AllBare (Leaf.ofBound column v) := by
      rw [Leaf.ofMembers, Leaf.allBare_flatMap] at h
      exact h
      exact hjson
    rw [unquoted_enclose, unquoted_join, map_unquoted fun v hv => unquoted_ofBound (hitems v hv)]
    simp (disch := decide) only [unquote_of_bare]

/-- **The value of a column is laid out without back-quotes.** -/
theorem unquoted_ofValue {indexes : List Index} {column v : Value}
    (h : AllBare (Leaf.ofValue indexes column v)) :
    (ofValue indexes column v).unquoted = ofValue indexes column v := by
  cases v with
  | null | query q => rfl
  | raw sql params => exact unquoted_ofRaw params (by simpa [Leaf.ofValue, Leaf.ofRaw] using h)
  | list items | tuple items | set items => exact unquoted_ofMembers h
  | _ =>
    simp only [Leaf.ofValue, ofValue] at h ⊢
    exact unquoted_ofBound h

theorem unquoted_ofChecked {indexes : List Index} {column : Value} {v : Checked Value}
    (h : AllBare (Leaf.ofCell indexes column v)) :
    (ofChecked indexes column v).unquoted = ofChecked indexes column v := by
  cases v with
  | ok v => exact unquoted_ofValue h
  | error f => rfl

theorem unquoted_ofPattern {table v : Value} (h : AllBare (Leaf.ofPattern table v)) :
    (ofPattern table v).unquoted = ofPattern table v := by
  cases v with
  | raw sql params => exact unquoted_ofRaw params (by simpa [Leaf.ofPattern, Leaf.ofRaw] using h)
  | _ =>
    simp only [ofPattern]
    split <;> rfl

/-- What is laid out for the text of a value has back-quotes where what it supplies has some. -/
theorem unquoted_ofShown {v : Value} {leaves : String → List Leaf} {layout : String → Layout}
    (h : AllBare (Leaf.ofShown v leaves))
    (hlayout : ∀ s, AllBare (leaves s) → (layout s).unquoted = layout s) :
    (ofShown v layout).unquoted = ofShown v layout := by
  rw [Leaf.ofShown] at h
  rw [ofShown]
  cases hshown : v.shown with
  | ok s =>
    rw [hshown] at h
    exact hlayout s h
  | error f => rfl

theorem unquoted_ofFulltext {v : Value} (h : AllBare (Leaf.ofFulltext v)) :
    (ofFulltext v).unquoted = ofFulltext v := by
  cases v with
  | raw sql params =>
    have hsql : Bare sql := by simpa [Leaf.ofFulltext, Leaf.ofRaw] using h
    simp (disch := first | assumption | decide) [ofFulltext, Piece.unquoted, unquote_of_bare]
  | _ =>
    simp only [Leaf.ofFulltext] at h
    simp only [ofFulltext]
    rw [unquoted_enclose, unquoted_ofShown h fun _ _ => rfl]
    simp (disch := decide) only [unquote_of_bare]

mutual

theorem unquoted_ofOption (v : Value) (h : AllBare (Leaf.ofOption v)) :
    (ofOption v).unquoted = ofOption v := by
  match v with
  | .raw sql params => exact unquoted_ofRaw params (by simpa [Leaf.ofOption, Leaf.ofRaw] using h)
  | .map pairs =>
    simp (disch := decide) [ofOption, map_unquoted_ofOptionPairs pairs h, unquote_of_bare]
  | .list items =>
    simp (disch := decide) [ofOption, map_unquoted_ofOptionItems items h, unquote_of_bare]
  | .tuple items =>
    simp (disch := decide) [ofOption, map_unquoted_ofOptionItems items h, unquote_of_bare]
  | .null | .bool _ | .int _ | .float _ | .text _ | .bytes _ | .buffer _ | .set _ | .query _ => rfl

theorem map_unquoted_ofOptionItems (items : List Value)
    (h : AllBare (Leaf.ofOptionItems items)) :
    (ofOptionItems items).map unquoted = ofOptionItems items := by
  match items with
  | [] => rfl
  | v :: rest =>
    obtain ⟨hv, hrest⟩ := Leaf.allBare_append.1 h
    simp [ofOptionItems, unquoted_ofOption v hv, map_unquoted_ofOptionItems rest hrest]

theorem map_unquoted_ofOptionPairs (pairs : List (Value × Value))
    (h : AllBare (Leaf.ofOptionPairs pairs)) :
    (ofOptionPairs pairs).map unquoted = ofOptionPairs pairs := by
  match pairs with
  | [] => rfl
  | (.text name, v) :: rest =>
    obtain ⟨hhead, hrest⟩ := Leaf.allBare_append.1 h
    obtain ⟨hname, hv⟩ := Leaf.allBare_cons.1 hhead
    rw [Leaf.bare_verbatim] at hname
    simp (disch := first | assumption | decide) [ofOptionPairs, Piece.unquoted, unquote_of_bare,
      unquoted_ofOption v hv, map_unquoted_ofOptionPairs rest hrest]
  | (.null, v) :: rest | (.bool _, v) :: rest | (.int _, v) :: rest | (.float _, v) :: rest
  | (.bytes _, v) :: rest | (.buffer _, v) :: rest | (.list _, v) :: rest
  | (.tuple _, v) :: rest | (.set _, v) :: rest | (.map _, v) :: rest | (.raw _ _, v) :: rest
  | (.query _, v) :: rest =>
    obtain ⟨hv, hrest⟩ := Leaf.allBare_append.1 h
    simp [ofOptionPairs, unquoted_ofOption v hv, map_unquoted_ofOptionPairs rest hrest]

end

theorem unquoted_ofOptions {options : List (String × Value)}
    (h : AllBare (Leaf.ofOptions options)) : (ofOptions options).unquoted = ofOptions options := by
  rw [Leaf.ofOptions, Leaf.allBare_flatMap] at h
  rw [ofOptions]
  split
  · rfl
  · have hmap := map_unquoted (s := options) (f := fun option : String × Value =>
        .text (option.1 ++ " = ") :: ofOption option.2)
      (g := fun option => .text (option.1 ++ " = ") :: ofOption option.2) <| by
      intro option hoption
      obtain ⟨hname, hv⟩ := Leaf.allBare_cons.1 (h option hoption)
      rw [Leaf.bare_verbatim] at hname
      simp (disch := first | assumption | decide) [Piece.unquoted, unquote_of_bare,
        unquoted_ofOption _ hv]
    simp (disch := decide) [Piece.unquoted, unquote_of_bare, hmap]

theorem unquoted_ofShowMeta {c : Connection} {v : Value} (h : AllBare (Leaf.ofShowMeta c v)) :
    (ofShowMeta c v).unquoted = ofShowMeta c.unquoted v := by
  unfold Leaf.ofShowMeta at h
  unfold ofShowMeta
  split
  · rfl
  · rename_i hgiven
    rw [if_neg hgiven] at h
    have hword : unquote "SHOW META LIKE " = "SHOW META LIKE " := unquote_of_bare (by decide)
    cases v with
    | bool b => simp (disch := decide) [Piece.unquoted, unquote_of_bare]
    | raw sql params =>
      simp only [unquoted_cons, Piece.unquoted, hword]
      rw [unquoted_ofRaw params (by simpa [Leaf.ofRaw] using h)]
    | _ =>
      simp only [unquoted_cons, Piece.unquoted, hword]
      rw [unquoted_ofShown h fun _ => unquoted_ofPattern, Connection.settings_unquoted]

/-! ## Clauses -/

section

variable {c : Connection} (hd : c.dialect.OnlyQuotes)

theorem unquoted_ofWindow (limit offset : Value) :
    (ofWindow c limit offset).unquoted = ofWindow c.unquoted limit offset := by
  have hsame : windowText c.unquoted limit offset = windowText c limit offset := rfl
  rw [ofWindow, ofWindow, hsame]
  split
  · rename_i s hs
    exact unquoted_ofText (notMem_windowText (by decide) (by decide) hs)
  · rfl

include hd

theorem unquoted_ofLabeled {separator name : String} (hs : Bare separator) {label : Option String}
    (h : AllBare (Leaf.ofLabeled name label)) :
    (ofLabeled c separator name label).unquoted = ofLabeled c.unquoted separator name label := by
  cases label <;>
    simp_all [Leaf.ofLabeled, ofLabeled, Piece.unquoted, unquote_of_bare,
      Connection.unquote_quote]

theorem unquoted_ofRawLabeled {separator sql : String} (hs : Bare separator) {params : Mapping}
    {label : Option String} (h : AllBare (Leaf.ofRawLabeled sql params label)) :
    (ofRawLabeled c separator sql params label).unquoted =
      ofRawLabeled c.unquoted separator sql params label := by
  cases label <;>
    simp_all [Leaf.ofRawLabeled, Leaf.ofRaw, ofRawLabeled, ofRaw, Piece.unquoted, unquote_of_bare,
      Connection.unquote_quote]

theorem unquoted_ofField {field : Field} (h : AllBare (Leaf.ofField field)) :
    (ofField c field).unquoted = ofField c.unquoted field := by
  cases field with
  | named name label => exact unquoted_ofLabeled hd (by decide) h
  | raw sql params label => exact unquoted_ofRawLabeled hd (by decide) h
  | unwritable => rfl

theorem unquoted_ofFields {fields : List Field} (h : AllBare (fields.flatMap Leaf.ofField)) :
    (ofFields c fields).unquoted = ofFields c.unquoted fields := by
  rw [Leaf.allBare_flatMap] at h
  unfold ofFields
  split
  · rfl
  · rw [unquoted_join, map_unquoted fun field hfield => unquoted_ofField hd (h field hfield)]
    simp (disch := decide) only [unquote_of_bare]

theorem unquoted_ofColumn {column : ListedColumn} (h : AllBare (Leaf.ofColumn column)) :
    (ofColumn c column).unquoted = ofColumn c.unquoted column := by
  cases column with
  | named name => simp_all [Leaf.ofColumn, ofColumn, Piece.unquoted, Connection.unquote_quote]
  | raw sql params => exact unquoted_ofRaw params (by simpa [Leaf.ofColumn, Leaf.ofRaw] using h)
  | unwritable => rfl

theorem unquoted_ofColumns {columns : List ListedColumn}
    (h : AllBare (columns.flatMap Leaf.ofColumn)) :
    (ofColumns c columns).unquoted = ofColumns c.unquoted columns := by
  rw [Leaf.allBare_flatMap] at h
  unfold ofColumns
  rw [unquoted_join, map_unquoted fun column hcolumn => unquoted_ofColumn hd (h column hcolumn)]
  simp (disch := decide) only [unquote_of_bare]

theorem unquoted_ofOrderTerm (spelled : Bool) {term : OrderTerm}
    (h : AllBare (Leaf.ofOrderTerm term)) :
    (ofOrderTerm c spelled term).unquoted = ofOrderTerm c.unquoted spelled term := by
  cases term with
  | raw sql params => exact unquoted_ofRaw params (by simpa [Leaf.ofOrderTerm, Leaf.ofRaw] using h)
  | unwritable => rfl
  | column name direction =>
    have hname : unquote (c.quote name) = name :=
      Connection.unquote_quote hd (by simpa [Leaf.ofOrderTerm] using h)
    cases direction <;> cases spelled <;>
      simp (disch := decide) [ofOrderTerm, Piece.unquoted, hname, unquote_of_bare]

/-- **An ordering is laid out without back-quotes.** -/
theorem unquoted_ofOrdering {keyword : String} (hk : Bare keyword) (spelled : Bool)
    {terms : List OrderTerm} (h : AllBare (terms.flatMap Leaf.ofOrderTerm)) :
    (ofOrdering c keyword spelled terms).unquoted =
      ofOrdering c.unquoted keyword spelled terms := by
  rw [Leaf.allBare_flatMap] at h
  unfold ofOrdering
  split
  · rfl
  · rw [unquoted_cons, unquoted_join,
      map_unquoted fun term hterm => unquoted_ofOrderTerm hd spelled (h term hterm)]
    simp (disch := first | assumption | decide) [Piece.unquoted, unquote_of_bare]

theorem unquoted_ofOrder {terms : List OrderTerm} (h : AllBare (terms.flatMap Leaf.ofOrderTerm)) :
    (ofOrder c terms).unquoted = ofOrder c.unquoted terms :=
  unquoted_ofOrdering hd (by decide) true h

theorem unquoted_ofWithin {terms : List OrderTerm} (h : AllBare (terms.flatMap Leaf.ofOrderTerm)) :
    (ofWithin c terms).unquoted = ofWithin c.unquoted terms :=
  unquoted_ofOrdering hd (by decide) false h

theorem unquoted_ofCheckedOrder {terms : Checked (List OrderTerm)}
    (h : AllBare (Leaf.ofCheckedOrder terms)) :
    (ofCheckedOrder c terms).unquoted = ofCheckedOrder c.unquoted terms := by
  cases terms with
  | ok terms => exact unquoted_ofOrder hd h
  | error f => rfl

theorem unquoted_ofFacet {facet : Checked Facet} (h : AllBare (Leaf.ofFacet facet)) :
    (ofFacet c facet).unquoted = ofFacet c.unquoted facet := by
  cases facet with
  | error f => rfl
  | ok facet =>
    obtain ⟨hfields, horder⟩ := Leaf.allBare_append.1 h
    simp (disch := decide) [ofFacet, Piece.unquoted, unquote_of_bare, unquoted_ofFields hd hfields,
      unquoted_ofCheckedOrder hd horder, unquoted_ofWindow]

theorem unquoted_ofFacets (hs : Bare c.settings.separator) {facets : List (Checked Facet)}
    (h : AllBare (facets.flatMap Leaf.ofFacet)) :
    (ofFacets c facets).unquoted = ofFacets c.unquoted facets := by
  rw [Leaf.allBare_flatMap] at h
  unfold ofFacets
  rw [unquoted_join, map_unquoted fun facet hfacet => unquoted_ofFacet hd (h facet hfacet),
    unquote_of_bare hs, Connection.settings_unquoted]

end

end Layout

end SearchSql

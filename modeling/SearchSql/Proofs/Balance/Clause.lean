import SearchSql.Proofs.Balance.Layout

/-!
# Values and clauses with balanced parentheses

The parentheses that the clauses of a statement add are closed where they are opened.

## Main statements

* `Layout.Leads.ofValue`, `Layout.Leads.ofOption` — values of columns and of options.
* `Layout.Leads.ofFields`, `Layout.Leads.ofOrdering`, `Layout.Leads.ofFacets` — clauses.
-/
namespace SearchSql.Layout.Leads

open Parens (Balanced balanced_iff_leads)
open Leaf (AllBalanced)

/-! ## Values -/

theorem bind (v : Value) : Leads 0 0 [.bind v] := rfl

theorem fault (f : Fault) : Leads 0 0 [.fault f] := rfl

theorem naming (names : List Value) : Leads 0 0 (Layout.naming names) := by
  rcases naming_eq_nil_or names with h | h <;> rw [h]
  · exact nil 0
  · exact fault _

/-- The text of a raw fragment. -/
theorem raw {sql : String} {params : Mapping} (h : AllBalanced (Leaf.ofRaw sql params)) :
    Parens.Leads 0 0 sql.toList := by
  obtain ⟨-, hsql⟩ := Leaf.allBalanced_cons.1 h
  exact balanced_iff_leads.1 (Leaf.allBalanced_cons.1 hsql).1

theorem ofRaw {sql : String} {params : Mapping} (h : AllBalanced (Leaf.ofRaw sql params)) :
    Leads 0 0 (Layout.ofRaw sql params) :=
  merge params (fixed (raw h))

theorem ofText {s : String} (h : Balanced s.toList) : Leads 0 0 (Layout.ofText s) := by
  rw [Layout.ofText]
  split
  · exact nil 0
  · exact fixed (balanced_iff_leads.1 h)

theorem ofBound {column : Option Column} {v : Value} (h : AllBalanced (Leaf.ofBound column v)) :
    Leads 0 0 (Layout.ofBound column v) := by
  cases v with
  | raw sql params => exact ofRaw h
  | _ =>
    simp only [Layout.ofBound]
    split <;> rfl

theorem ofPlain {v : Value} (h : AllBalanced (Leaf.ofPlain v)) : Leads 0 0 (Layout.ofPlain v) := by
  cases v with
  | raw sql params => exact ofRaw h
  | _ => rfl

theorem ofMembers {column : Option Column} {v : Value} {items : List Value}
    (h : AllBalanced (Leaf.ofMembers column v items)) :
    Leads 0 0 (Layout.ofMembers column v items) := by
  unfold Layout.ofMembers
  split
  · exact ofBound h
  · rename_i hjson
    rw [Leaf.ofMembers, Leaf.allBalanced_flatMap] at h
    · refine enclose (n := 1) (by decide) (join (by decide) fun l hl => ?_) (by decide)
      obtain ⟨item, hitem, rfl⟩ := List.mem_map.1 hl
      exact ofBound (h item hitem)
    · exact hjson

/-- **The value of a column is balanced.** -/
theorem ofValue {indexes : List Index} {column v : Value}
    (h : AllBalanced (Leaf.ofValue indexes column v)) :
    Leads 0 0 (Layout.ofValue indexes column v) := by
  cases v with
  | null => exact fixed (by decide)
  | query q => exact fault _
  | raw sql params => exact ofRaw h
  | list items | tuple items | set items => exact ofMembers h
  | _ =>
    simp only [Leaf.ofValue, Layout.ofValue] at h ⊢
    exact ofBound h

theorem ofChecked {indexes : List Index} {column : Value} {v : Checked Value}
    (h : AllBalanced (Leaf.ofCell indexes column v)) :
    Leads 0 0 (Layout.ofChecked indexes column v) := by
  cases v with
  | ok v => exact ofValue h
  | error f => exact fault f

theorem ofCompared {v : Value} (h : AllBalanced (Leaf.ofCompared v)) :
    Leads 0 0 (Layout.ofCompared v) := by
  cases v with
  | null => exact fixed (by decide)
  | _ =>
    simp only [Leaf.ofCompared, Layout.ofCompared] at h ⊢
    exact ofPlain h

theorem ofPattern {table v : Value} (h : AllBalanced (Leaf.ofPattern table v)) :
    Leads 0 0 (Layout.ofPattern table v) := by
  cases v with
  | raw sql params => exact ofRaw h
  | _ =>
    simp only [Layout.ofPattern]
    split <;> rfl

/-- What is laid out for the text of a value is balanced as what it supplies. -/
theorem ofShown {v : Value} {leaves : String → List Leaf} {layout : String → Layout}
    (h : AllBalanced (Leaf.ofShown v leaves))
    (hlayout : ∀ s, AllBalanced (leaves s) → Leads 0 0 (layout s)) :
    Leads 0 0 (Layout.ofShown v layout) := by
  rw [Leaf.ofShown] at h
  rw [Layout.ofShown]
  cases hshown : v.shown with
  | ok s =>
    rw [hshown] at h
    exact hlayout s h
  | error f => exact fault f

theorem ofFulltext {v : Value} (h : AllBalanced (Leaf.ofFulltext v)) :
    Leads 0 0 (Layout.ofFulltext v) := by
  cases v with
  | raw sql params =>
    have hopen : Parens.Leads 0 1 "MATCH(".toList := by decide
    exact merge params (fixed ((hopen.concat ((raw h).level 1)).concat (by decide)))
  | _ =>
    simp only [Leaf.ofFulltext, Layout.ofFulltext] at h ⊢
    exact enclose (n := 1) (by decide) ((ofShown h fun _ _ => bind _).level 1) (by decide)

mutual

/-- **The value of an option is balanced.** -/
theorem ofOption (v : Value) (h : AllBalanced (Leaf.ofOption v)) :
    Leads 0 0 (Layout.ofOption v) := by
  match v with
  | .raw sql params => exact ofRaw h
  | .map pairs =>
    exact enclose (n := 1) (by decide) (join (by decide) (ofOptionPairs pairs h)) (by decide)
  | .list items | .tuple items =>
    exact enclose (n := 1) (by decide) (join (by decide) (ofOptionItems items h)) (by decide)
  | .null | .bool _ | .int _ | .float _ | .text _ | .bytes _ | .buffer _ | .set _ | .query _ =>
    exact bind _

theorem ofOptionItems (items : List Value) (h : AllBalanced (Leaf.ofOptionItems items)) :
    ∀ l ∈ Layout.ofOptionItems items, Leads 0 0 l := by
  match items with
  | [] => exact List.forall_mem_nil _
  | v :: rest =>
    obtain ⟨hv, hrest⟩ := Leaf.allBalanced_append.1 h
    exact List.forall_mem_cons.2 ⟨ofOption v hv, ofOptionItems rest hrest⟩

theorem ofOptionPairs (pairs : List (Value × Value)) (h : AllBalanced (Leaf.ofOptionPairs pairs)) :
    ∀ l ∈ Layout.ofOptionPairs pairs, Leads 0 0 l := by
  match pairs with
  | [] => exact List.forall_mem_nil _
  | (.text name, v) :: rest =>
    obtain ⟨hname, hpair⟩ := Leaf.allBalanced_cons.1 h
    obtain ⟨hv, hrest⟩ := Leaf.allBalanced_append.1 hpair
    refine List.forall_mem_cons.2 ⟨?_, ofOptionPairs rest hrest⟩
    exact (ofOption v hv).text ((balanced_iff_leads.1 hname).concat (by decide))
  | (.null, v) :: rest | (.bool _, v) :: rest | (.int _, v) :: rest | (.float _, v) :: rest
  | (.bytes _, v) :: rest | (.buffer _, v) :: rest | (.list _, v) :: rest
  | (.tuple _, v) :: rest | (.set _, v) :: rest | (.map _, v) :: rest | (.raw .., v) :: rest
  | (.query _, v) :: rest =>
    obtain ⟨hv, hrest⟩ := Leaf.allBalanced_append.1 h
    exact List.forall_mem_cons.2 ⟨ofOption v hv, ofOptionPairs rest hrest⟩

end

theorem ofOptions {options : List (String × Value)} (h : AllBalanced (Leaf.ofOptions options)) :
    Leads 0 0 (Layout.ofOptions options) := by
  rw [Leaf.ofOptions, Leaf.allBalanced_flatMap] at h
  rw [Layout.ofOptions]
  split
  · exact nil 0
  · refine (join (by decide) fun l hl => ?_).text (by decide)
    obtain ⟨⟨name, v⟩, hoption, rfl⟩ := List.mem_map.1 hl
    obtain ⟨hname, hv⟩ := Leaf.allBalanced_cons.1 (h _ hoption)
    exact (ofOption v hv).text ((balanced_iff_leads.1 hname).concat (by decide))

variable {c : Connection}

theorem ofWindow (limit offset : Value) : Leads 0 0 (Layout.ofWindow c limit offset) := by
  rw [Layout.ofWindow]
  split
  · rename_i s hs
    exact ofText (balanced_iff_leads.2 (Parens.leads_of_notMem
      (notMem_windowText (by decide) (by decide) hs)
      (notMem_windowText (by decide) (by decide) hs)))
  · exact fault _

theorem ofShowMeta {v : Value} (h : AllBalanced (Leaf.ofShowMeta c v)) :
    Leads 0 0 (Layout.ofShowMeta c v) := by
  unfold Layout.ofShowMeta
  unfold Leaf.ofShowMeta at h
  split
  · exact nil 0
  · rename_i htruthy
    rw [if_neg htruthy] at h
    have hword : Parens.Leads 0 0 "SHOW META LIKE ".toList := by decide
    cases v with
    | bool b => exact fixed (by decide)
    | raw sql params => exact (ofRaw h).text hword
    | _ =>
      simp only at h ⊢
      exact (ofShown h fun _ => ofPattern).text hword

/-! ## Names -/

variable (hd : c.dialect.KeepsBalance)
include hd

theorem quoted {s : String} (h : (Leaf.quoted s).Balanced) :
    Parens.Leads 0 0 (c.quote s).toList :=
  Connection.leads_quote hd h

theorem ofLabeled {separator name : String} (hs : Parens.Leads 0 0 separator.toList)
    {label : Option String} (h : AllBalanced (Leaf.ofLabeled name label)) :
    Leads 0 0 (Layout.ofLabeled c separator name label) := by
  obtain ⟨hname, hlabel⟩ := Leaf.allBalanced_cons.1 h
  cases label with
  | none => exact fixed (quoted hd hname)
  | some label =>
    exact fixed (((quoted hd hname).concat hs).concat
      (quoted hd (Leaf.allBalanced_cons.1 hlabel).1))

theorem ofRawLabeled {separator sql : String} (hs : Parens.Leads 0 0 separator.toList)
    {params : Mapping} {label : Option String}
    (h : AllBalanced (Leaf.ofRawLabeled sql params label)) :
    Leads 0 0 (Layout.ofRawLabeled c separator sql params label) := by
  obtain ⟨hraw, hlabel⟩ := Leaf.allBalanced_append.1 h
  cases label with
  | none => exact ofRaw hraw
  | some label =>
    exact merge params (fixed (((raw hraw).concat hs).concat
      (quoted hd (Leaf.allBalanced_cons.1 hlabel).1)))

theorem ofField {field : Field} (h : AllBalanced (Leaf.ofField field)) :
    Leads 0 0 (Layout.ofField c field) := by
  cases field with
  | named name label => exact ofLabeled hd (by decide) h
  | raw sql params label => exact ofRawLabeled hd (by decide) h
  | unwritable => exact fault _

theorem ofFields {fields : List Field} (h : AllBalanced (fields.flatMap Leaf.ofField)) :
    Leads 0 0 (Layout.ofFields c fields) := by
  rw [Leaf.allBalanced_flatMap] at h
  rw [Layout.ofFields]
  split
  · exact fixed (by decide)
  · refine join (by decide) fun l hl => ?_
    obtain ⟨field, hfield, rfl⟩ := List.mem_map.1 hl
    exact ofField hd (h field hfield)

theorem ofColumns {columns : List ListedColumn} (h : AllBalanced (columns.flatMap Leaf.ofColumn)) :
    Leads 0 0 (Layout.ofColumns c columns) := by
  rw [Leaf.allBalanced_flatMap] at h
  refine join (by decide) fun l hl => ?_
  obtain ⟨column, hcolumn, rfl⟩ := List.mem_map.1 hl
  have hleaf := h column hcolumn
  cases column with
  | named name => exact fixed (quoted hd (Leaf.allBalanced_cons.1 hleaf).1)
  | raw sql params => exact ofRaw hleaf
  | unwritable => exact fault _

theorem ofOrderTerm {spelled : Bool} {term : OrderTerm} (h : AllBalanced (Leaf.ofOrderTerm term)) :
    Leads 0 0 (Layout.ofOrderTerm c spelled term) := by
  cases term with
  | raw sql params => exact ofRaw h
  | unwritable => exact fault _
  | column name direction =>
    have hname := quoted hd (Leaf.allBalanced_cons.1 h).1
    cases direction with
    | descending => exact fixed (hname.concat (by decide))
    | ascending =>
      rw [Layout.ofOrderTerm]
      split
      · exact fixed (hname.concat (by decide))
      · exact fixed hname

theorem ofOrdering {keyword : String} (hk : Parens.Leads 0 0 keyword.toList) {spelled : Bool}
    {terms : List OrderTerm} (h : AllBalanced (terms.flatMap Leaf.ofOrderTerm)) :
    Leads 0 0 (Layout.ofOrdering c keyword spelled terms) := by
  rw [Leaf.allBalanced_flatMap] at h
  rw [Layout.ofOrdering]
  split
  · exact nil 0
  · refine (join (by decide) fun l hl => ?_).text (hk.concat (by decide))
    obtain ⟨term, hterm, rfl⟩ := List.mem_map.1 hl
    exact ofOrderTerm hd (h term hterm)

theorem ofFacet {facet : Checked Facet} (h : AllBalanced (Leaf.ofFacet facet)) :
    Leads 0 0 (Layout.ofFacet c facet) := by
  cases facet with
  | error f => exact fault f
  | ok facet =>
    obtain ⟨hfields, horder⟩ := Leaf.allBalanced_append.1 h
    have hordered : Leads 0 0 (Layout.ofCheckedOrder c facet.order) := by
      cases hterms : facet.order with
      | error f => exact fault f
      | ok terms =>
        rw [hterms] at horder
        exact ofOrdering hd (by decide) horder
    refine (joinPresent (by decide) ?_).text (by decide)
    simp only [List.forall_mem_cons]
    exact ⟨ofFields hd hfields, hordered, ofWindow _ _, List.forall_mem_nil _⟩

theorem ofFacets (hs : Parens.Leads 0 0 c.settings.separator.toList)
    {facets : List (Checked Facet)} (h : AllBalanced (facets.flatMap Leaf.ofFacet)) :
    Leads 0 0 (Layout.ofFacets c facets) := by
  rw [Leaf.allBalanced_flatMap] at h
  refine join hs fun l hl => ?_
  obtain ⟨facet, hfacet, rfl⟩ := List.mem_map.1 hl
  exact ofFacet hd (h facet hfacet)

end SearchSql.Layout.Leads

import SearchSql.Proofs.Placeholder.Framing

/-!
# Values and clauses around what is supplied

Every part of a statement that holds neither conditions nor selections is framed around its
leaves.

## Main statements

* `Layout.FramedBy.value`, `Layout.FramedBy.option` — values of columns and of options.
* `Layout.FramedBy.fields`, `Layout.FramedBy.ordering`, `Layout.FramedBy.facets` — clauses.
-/
namespace SearchSql.Layout

/-- No character but digits stands in a numeral. -/
theorem notMem_toDigits {a : Char} (ha : a.isDigit = false) (n : Nat) : a ∉ Nat.toDigits 10 n := by
  intro h
  have hdigit := Nat.isDigit_of_mem_toDigits (by decide) (by decide) h
  rw [ha] at hdigit
  exact absurd hdigit nofun

/-- The rows that are returned are given by numbers behind a word. -/
theorem windowText_cases {c : Connection} {limit offset : Value} {s : String}
    (h : windowText c limit offset = .ok s) :
    s = "" ∨ (∃ n : Nat, s = "LIMIT " ++ toString n) ∨
      ∃ m n : Nat, s = "LIMIT " ++ toString m ++ "," ++ toString n := by
  rw [windowText] at h
  obtain ⟨skipped, -, h⟩ := Checked.bind_eq_ok_iff.1 h
  obtain ⟨returned, -, h⟩ := Checked.bind_eq_ok_iff.1 h
  have hboth (m n : Nat) (h : (do
        return "LIMIT " ++ (← Numeral.write m) ++ "," ++ (← Numeral.write n) : Checked String) =
      .ok s) : ∃ m n : Nat, s = "LIMIT " ++ toString m ++ "," ++ toString n := by
    obtain ⟨_, hm, h⟩ := Checked.bind_eq_ok_iff.1 h
    obtain ⟨_, hn, h⟩ := Checked.bind_eq_ok_iff.1 h
    obtain ⟨-, rfl⟩ := Numeral.write_eq_ok_iff.1 hm
    obtain ⟨-, rfl⟩ := Numeral.write_eq_ok_iff.1 hn
    exact ⟨m, n, (Except.ok.inj h).symm⟩
  split at h
  · exact .inl (Except.ok.inj h).symm
  · obtain ⟨_, hn, h⟩ := Checked.bind_eq_ok_iff.1 h
    obtain ⟨-, rfl⟩ := Numeral.write_eq_ok_iff.1 hn
    exact .inr (.inl ⟨_, (Except.ok.inj h).symm⟩)
  · exact .inr (.inr (hboth _ _ h))
  · exact .inr (.inr (hboth _ _ h))

theorem notMem_windowText {c : Connection} {a : Char} (ha : a.isDigit = false)
    (hword : a ∉ "LIMIT ,".toList) {limit offset : Value} {s : String}
    (h : windowText c limit offset = .ok s) : a ∉ s.toList := by
  simp at hword
  rcases windowText_cases h with rfl | ⟨n, rfl⟩ | ⟨m, n, rfl⟩ <;>
    simp [toString, notMem_toDigits ha, hword]

end SearchSql.Layout

namespace SearchSql.Layout.FramedBy

open Placeholder

variable {c : Connection}

/-! ## Values -/

theorem raw (sql : String) (params : Mapping) :
    FramedBy (Leaf.ofRaw sql params) (ofRaw sql params) :=
  merge params (verbatim sql)

theorem bound (column : Option Column) (v : Value) :
    FramedBy (Leaf.ofBound column v) (ofBound column v) := by
  cases v with
  | raw sql params => exact raw sql params
  | _ =>
    simp only [Leaf.ofBound, Leaf.ofChecked, ofBound]
    split
    · rename_i heq
      simpa [heq, Except.toOption] using bind _
    · rename_i heq
      simpa [heq, Except.toOption] using fault _

theorem plain (v : Value) : FramedBy (Leaf.ofPlain v) (ofPlain v) := by
  cases v with
  | raw sql params => exact raw sql params
  | _ => exact bind _

theorem members (column : Option Column) (v : Value) (items : List Value) :
    FramedBy (Leaf.ofMembers column v items) (ofMembers column v items) := by
  have hall := enclose (s := "(") (t := ")") (by decide)
    ((InOrder.map items fun item _ => bound column item).join (s := ",") (by decide))
    (by decide)
  rcases column with _ | ⟨name, type⟩
  · exact hall
  · cases type with
    | json => exact bound _ v
    | _ => exact hall

theorem value (indexes : List Index) (column v : Value) :
    FramedBy (Leaf.ofValue indexes column v) (ofValue indexes column v) := by
  have hbound := bound (columnOf indexes column) v
  cases v with
  | null => exact fixed (free_of_notMem (by decide))
  | raw sql params => exact raw sql params
  | query q => exact fault _
  | list items | tuple items | set items => exact members _ _ items
  | bool | int | float | text | bytes | buffer | map => exact hbound

theorem cell (indexes : List Index) (column : Value) (v : Checked Value) :
    FramedBy (Leaf.ofCell indexes column v) (ofChecked indexes column v) := by
  cases v with
  | ok v => exact value indexes column v
  | error f => exact fault f

theorem compared (v : Value) : FramedBy (Leaf.ofCompared v) (ofCompared v) := by
  have hplain := plain v
  cases v with
  | null => exact fixed (free_of_notMem (by decide))
  | _ => exact hplain

mutual

theorem option (v : Value) : FramedBy (Leaf.ofOption v) (ofOption v) := by
  match v with
  | .raw sql params => exact raw sql params
  | .map pairs => exact enclose (by decide) ((optionPairs pairs).join (by decide)) (by decide)
  | .list items | .tuple items =>
    exact enclose (by decide) ((optionItems items).join (by decide)) (by decide)
  | .null | .bool _ | .int _ | .float _ | .text _ | .bytes _ | .buffer _ | .set _ | .query _ =>
    exact bind _

theorem optionItems (items : List Value) :
    InOrder (Leaf.ofOptionItems items) (ofOptionItems items) := by
  match items with
  | [] => exact .nil
  | v :: rest => exact .cons (option v) (optionItems rest)

theorem optionPairs (pairs : List (Value × Value)) :
    InOrder (Leaf.ofOptionPairs pairs) (ofOptionPairs pairs) := by
  match pairs with
  | [] => exact .nil
  | (.text name, v) :: rest =>
    exact .cons (behindText name (by decide) (option v)) (optionPairs rest)
  | (.null, v) :: rest | (.bool _, v) :: rest | (.int _, v) :: rest | (.float _, v) :: rest
  | (.bytes _, v) :: rest | (.buffer _, v) :: rest | (.list _, v) :: rest
  | (.tuple _, v) :: rest | (.set _, v) :: rest | (.map _, v) :: rest | (.raw _ _, v) :: rest
  | (.query _, v) :: rest => exact .cons (option v) (optionPairs rest)

end

theorem pattern (table v : Value) : FramedBy (Leaf.ofPattern table v) (ofPattern table v) := by
  cases v with
  | raw sql params => exact raw sql params
  | _ =>
    simp only [Leaf.ofPattern, Leaf.ofChecked, ofPattern]
    split
    · rename_i heq
      simpa [heq, Except.toOption] using bind _
    · rename_i heq
      simpa [heq, Except.toOption] using fault _

theorem shown (v : Value) {leaves : String → List Leaf} {layout : String → Layout}
    (h : ∀ s, FramedBy (leaves s) (layout s)) :
    FramedBy (Leaf.ofShown v leaves) (ofShown v layout) := by
  rw [Leaf.ofShown, ofShown]
  cases v.shown with
  | ok s => exact h s
  | error f => exact fault f

/-- Nothing is supplied by the check of names, in front of a layout or behind it. -/
theorem behindNaming {a : List Leaf} {l : Layout} (h : FramedBy a l) (names : List Value) :
    FramedBy a (naming names ++ l) :=
  ⟨by simp [h.binds_eq], by simp [h.merges_eq], by simpa using h.clear⟩

theorem named {a : List Leaf} {l : Layout} (h : FramedBy a l) (names : List Value) :
    FramedBy a (l ++ naming names) :=
  ⟨by simp [h.binds_eq], by simp [h.merges_eq], by simpa using h.clear⟩

theorem fulltext (v : Value) : FramedBy (Leaf.ofFulltext v) (ofFulltext v) := by
  cases v with
  | raw sql params =>
    rw [ofFulltext, String.append_assoc]
    exact merge params (fuse (opened (by decide) (behindText sql (by decide) nil)))
  | _ =>
    simp only [Leaf.ofFulltext, ofFulltext]
    exact (shown _ fun _ => bind _).enclose (by decide) (by decide)

/-! ## Clauses -/

/-- A text without the first character of the mark, unless it is left out. -/
theorem ofText {s : String} (h : ':' ∉ s.toList) : FramedBy [] (Layout.ofText s) := by
  rw [Layout.ofText]
  split
  · exact nil
  · exact fixed (free_of_notMem h)

theorem window (c : Connection) (limit offset : Value) : FramedBy [] (ofWindow c limit offset) := by
  rw [ofWindow]
  split
  · rename_i s hs
    exact ofText (notMem_windowText (by decide) (by decide) hs)
  · exact fault _

theorem options (pairs : List (String × Value)) :
    FramedBy (Leaf.ofOptions pairs) (Layout.ofOptions pairs) := by
  rw [Layout.ofOptions]
  split
  · rename_i hempty
    obtain rfl := List.isEmpty_iff.1 hempty
    exact nil
  · refine opened (by decide) (InOrder.join (by decide) (.map _ ?_))
    rintro ⟨name, v⟩ _
    exact behindText name (by decide) (option v)

theorem showMeta (v : Value) : FramedBy (Leaf.ofShowMeta c v) (ofShowMeta c v) := by
  unfold Leaf.ofShowMeta ofShowMeta
  split
  · exact nil
  · cases v with
    | bool b => exact fixed (free_of_notMem (by decide))
    | raw sql params => exact opened (by decide) (raw sql params)
    | _ => exact opened (by decide) (shown _ fun _ => pattern _ _)

variable (hd : c.dialect.KeepsFree)
include hd

theorem labeled {separator : String} (hs : insulates separator.toList) (name : String)
    (label : Option String) :
    FramedBy (Leaf.ofLabeled name label) (ofLabeled c separator name label) := by
  cases label with
  | none => exact quoted hd name
  | some label => exact fuse (fuse ((quoted hd name).seam hs (quoted hd label)))

theorem rawLabeled {separator : String} (hs : insulates separator.toList) (sql : String)
    (params : Mapping) (label : Option String) :
    FramedBy (Leaf.ofRawLabeled sql params label) (ofRawLabeled c separator sql params label) := by
  cases label with
  | none => exact merge params (verbatim sql)
  | some label => exact merge params (fuse (fuse ((verbatim sql).seam hs (quoted hd label))))

theorem field (field : Field) : FramedBy (Leaf.ofField field) (ofField c field) := by
  cases field with
  | named name label => exact labeled hd (by decide) name label
  | raw sql params label => exact rawLabeled hd (by decide) sql params label
  | unwritable => exact fault _

theorem fields (fields : List Field) :
    FramedBy (fields.flatMap Leaf.ofField) (ofFields c fields) := by
  rw [ofFields]
  split
  · rename_i hempty
    obtain rfl := List.isEmpty_iff.1 hempty
    exact fixed (free_of_notMem (by decide))
  · exact InOrder.join (by decide) (.map _ fun x _ => field hd x)

theorem columns (columns : List ListedColumn) :
    FramedBy (columns.flatMap Leaf.ofColumn) (ofColumns c columns) := by
  refine InOrder.join (by decide) (.map _ fun column _ => ?_)
  cases column with
  | named name => exact quoted hd name
  | raw sql params => exact raw sql params
  | unwritable => exact fault _

theorem orderTerm (spelled : Bool) (term : OrderTerm) :
    FramedBy (Leaf.ofOrderTerm term) (ofOrderTerm c spelled term) := by
  cases term with
  | raw sql params => exact raw sql params
  | unwritable => exact fault _
  | column name direction =>
    cases direction with
    | descending => exact behindName hd name (by decide) nil
    | ascending =>
      cases spelled with
      | true => exact behindName hd name (by decide) nil
      | false => exact quoted hd name

theorem ordering (keyword : String) (hk : insulates (keyword ++ " ").toList) (spelled : Bool)
    (terms : List OrderTerm) :
    FramedBy (terms.flatMap Leaf.ofOrderTerm) (ofOrdering c keyword spelled terms) := by
  rw [ofOrdering]
  split
  · rename_i hempty
    obtain rfl := List.isEmpty_iff.1 hempty
    exact nil
  · exact opened hk (InOrder.join (by decide) (.map _ fun term _ => orderTerm hd spelled term))

theorem facet (f : Checked Facet) : FramedBy (Leaf.ofFacet f) (ofFacet c f) := by
  cases f with
  | error f => exact fault f
  | ok facet =>
    have horder : FramedBy (Leaf.ofCheckedOrder facet.order) (ofCheckedOrder c facet.order) := by
      cases facet.order with
      | ok terms => exact ordering hd _ (by decide) true terms
      | error f => exact fault f
    have hparts := InOrder.cons (fields hd facet.fields)
      (.cons horder (.singleton (window c facet.limit facet.offset)))
    have hjoined := hparts.joinPresent (s := " ") (by decide)
    rw [List.append_nil] at hjoined
    exact opened (by decide) hjoined

theorem facets {separator : String} (hs : insulates separator.toList)
    (facets : List (Checked Facet)) :
    FramedBy (facets.flatMap Leaf.ofFacet) (Layout.join separator (facets.map (ofFacet c))) :=
  InOrder.join hs (.map _ fun x _ => facet hd x)

end SearchSql.Layout.FramedBy

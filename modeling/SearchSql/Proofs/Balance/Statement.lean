import SearchSql.Proofs.Balance.Selection

/-!
# Changes of an index and calls with balanced parentheses

Rows are stored in parentheses, and the columns they are stored under. The arguments of a call
stand between the parentheses of its name.

## Main statements

* `Layout.Leads.ofStore`, `Layout.Leads.ofBatch` — rows that are stored.
* `Layout.Leads.ofUpdate`, `Layout.Leads.ofDelete` — rows that are changed or deleted.
* `Layout.Leads.ofSnippets`, `Layout.leads_keywordsText` — calls.
-/
namespace SearchSql.Layout

open Parens (Balanced balanced_iff_leads)
open Leaf (AllBalanced)

variable {c : Connection}

namespace Leads

theorem ofCaller (v : Value) : Leads 0 0 (Layout.ofCaller v) := by
  rw [Layout.ofCaller]
  split
  · cases Params.pairsOf v with
    | ok pairs => exact merge pairs (nil 0)
    | error f => exact fault f
  · exact nil 0

theorem ofCell {indexes : List Index} {column v : Value}
    (h : AllBalanced (Leaf.ofValue indexes column v)) :
    Leads 0 0 (Layout.ofCell indexes column v) :=
  (naming [column]).append (ofValue h)

theorem ofCells {indexes : List Index} {cells : List (Value × Value)}
    (h : AllBalanced (Leaf.ofCells indexes cells)) : Leads 0 0 (Layout.ofCells indexes cells) := by
  rw [Leaf.ofCells, Leaf.allBalanced_flatMap] at h
  refine enclose (n := 1) (by decide) (join (by decide) fun l hl => ?_) (by decide)
  obtain ⟨cell, hcell, rfl⟩ := List.mem_map.1 hl
  exact ofCell (h cell hcell)

theorem ofBatchRow {how : Store} {target : Value} {columns : List Value} {row : Value}
    (h : AllBalanced (Leaf.ofBatchRow c target columns row)) :
    Leads 0 0 (Layout.ofBatchRow c how target columns row) := by
  rw [Leaf.ofBatchRow] at h
  rw [Layout.ofBatchRow]
  cases hvalues : row.elements? with
  | none => exact fault _
  | some values =>
    simp only [hvalues] at h ⊢
    split
    · rename_i hwidth
      rw [if_pos hwidth] at h
      exact (ofCells h).append (naming [target])
    · exact fault _

theorem ofOptionMapping {options : Value} (h : AllBalanced (Leaf.ofOptionMapping options)) :
    Leads 0 0 (Layout.ofOptionMapping options) := by
  unfold Layout.ofOptionMapping
  unfold Leaf.ofOptionMapping at h
  split
  · exact nil 0
  · rename_i htruthy
    rw [if_neg htruthy] at h
    cases options with
    | map pairs => exact (ofOptions h).append (naming _)
    | _ => exact fault _

theorem ofDocuments (source : Value) : Leads 0 0 (Layout.ofDocuments source) := by
  rw [Layout.ofDocuments]
  cases source.sequence? with
  | none => exact bind source
  | some documents =>
    refine enclose (n := 1) (by decide) (join (by decide) fun l hl => ?_) (by decide)
    obtain ⟨v, -, rfl⟩ := List.mem_map.1 hl
    exact bind v

theorem ofCallOptions {options : Value} (h : AllBalanced (Leaf.ofCallOptions options)) :
    Leads 0 0 (Layout.ofCallOptions options) := by
  unfold Layout.ofCallOptions
  unfold Leaf.ofCallOptions at h
  split
  · exact nil 0
  · rename_i htruthy
    rw [if_neg htruthy] at h
    cases options with
    | map pairs =>
      refine text (n := 0) (by decide) (join (by decide) fun l hl => ?_)
      obtain ⟨⟨name, v⟩, hpair, rfl⟩ := List.mem_map.1 hl
      obtain ⟨hv, hname⟩ := Leaf.allBalanced_append.1 (Leaf.allBalanced_flatMap.1 h _ hpair)
      have hword : Parens.Leads 0 0 " AS ".toList := by decide
      exact ((ofPlain hv).append (naming [name])).append
        (fixed (hword.concat (balanced_iff_leads.1 (Leaf.allBalanced_cons.1 hname).1)))
    | _ => exact fault _

theorem ofSnippets {target source query options : Value}
    (h : AllBalanced (Leaf.ofSnippets target source query options)) :
    Leads 0 0 (Layout.ofSnippets target source query options) := by
  obtain ⟨-, harguments⟩ := Leaf.allBalanced_append.1 h
  have hoptions := (Leaf.allBalanced_cons.1 (Leaf.allBalanced_cons.1 harguments).2).2
  have hquery : Leads 0 0 (.bind query :: Layout.ofCallOptions options) :=
    (bind query).append (ofCallOptions hoptions)
  have htarget : Leads 0 0 (.bind target :: .text ", " :: .bind query ::
      Layout.ofCallOptions options) :=
    (bind target).append (hquery.text (by decide))
  have hall := (ofDocuments source).append (htarget.text (s := ", ") (m := 0) (by decide))
  exact enclose (n := 1) (by decide) (hall.level 1) (by decide)

variable (hd : c.dialect.KeepsBalance)
include hd

theorem ofTruncate {target : Value} (h : (Leaf.quoted target.display).Balanced) :
    Leads 0 0 (Layout.ofTruncate c target) := by
  have hword : Parens.Leads 0 0 "TRUNCATE RTINDEX ".toList := by decide
  exact (naming [target]).append (fixed (hword.concat (quoted hd h)))

/-- The index and its columns in front of the rows. -/
theorem storeHead (how : Store) {target : Value} {columns : List Value}
    (h : AllBalanced (Leaf.ofStoreHead target columns)) :
    Parens.Leads 0 0 (Layout.storeHead c how target columns).toList := by
  obtain ⟨htarget, hcolumns⟩ := Leaf.allBalanced_cons.1 h
  have hword : Parens.Leads 0 0 (how.keyword ++ " INTO ").toList := by cases how <;> decide
  have hopened : Parens.Leads 0 1
      (how.keyword ++ " INTO " ++ c.quoteValue target ++ " (").toList :=
    (hword.concat (quoted hd htarget)).concat (by decide)
  exact (hopened.concat ((quotedColumns hd hcolumns).level 1)).concat (by decide)

theorem ofStore (how : Store) {target cells : Value}
    (h : AllBalanced (Leaf.ofStore c target cells)) :
    Leads 0 0 (Layout.ofStore c how target cells) := by
  cases cells with
  | map pairs =>
    obtain ⟨hhead, hcells⟩ := Leaf.allBalanced_append.1 h
    exact ((ofCells hcells).text (storeHead hd how hhead)).append (naming _)
  | _ => exact fault _

theorem ofBatch (how : Store) {target names rows : Value}
    (h : AllBalanced (Leaf.ofBatch c target names rows)) :
    Leads 0 0 (Layout.ofBatch c how target names rows) := by
  rw [Leaf.ofBatch] at h
  rw [Layout.ofBatch]
  cases hnames : names.elements? with
  | none => exact fault _
  | some columns =>
    cases hrows : rows.elements? with
    | none => exact fault _
    | some rows =>
      simp only [hnames, hrows] at h
      obtain ⟨hhead, hall⟩ := Leaf.allBalanced_append.1 h
      refine ((join (by decide) fun l hl => ?_).text (storeHead hd how hhead)).append
        (naming (target :: columns))
      obtain ⟨row, hrow, rfl⟩ := List.mem_map.1 hl
      exact ofBatchRow (Leaf.allBalanced_flatMap.1 hall row hrow)

variable (hs : Parens.Leads 0 0 c.settings.separator.toList)
include hs

theorem ofRowCondition {target tree : Value} (h : AllBalanced (Leaf.ofRowCondition c target tree)) :
    Leads 0 0 (Layout.ofRowCondition c target tree) :=
  after (by decide) (condition hd hs _ _ h)

theorem ofUpdate {target cells tree options : Value}
    (h : AllBalanced (Leaf.ofUpdate c target cells tree options)) :
    Leads 0 0 (Layout.ofUpdate c target cells tree options) := by
  cases cells with
  | map pairs =>
    obtain ⟨htarget, hclauses⟩ := Leaf.allBalanced_cons.1 h
    simp only [Leaf.allBalanced_append, Leaf.allBalanced_flatMap] at hclauses
    obtain ⟨hpairs, htree, hoptions⟩ := hclauses
    have hword : Parens.Leads 0 0 "UPDATE ".toList := by decide
    have hcells : Leads 0 0 (Layout.join ", " (pairs.map fun pair =>
        .text (c.quoteValue pair.1 ++ "=") ::
          Layout.ofCell (c.knownIndex target) pair.1 pair.2)) := by
      refine join (by decide) fun l hl => ?_
      obtain ⟨pair, hpair, rfl⟩ := List.mem_map.1 hl
      obtain ⟨hcolumn, hv⟩ := Leaf.allBalanced_cons.1 (hpairs _ hpair)
      exact (ofCell hv).text ((quoted hd hcolumn).concat (by decide))
    refine joinPresent (by decide) ?_
    simp only [List.forall_mem_cons]
    exact ⟨(hcells.text ((hword.concat (quoted hd htarget)).concat (by decide))).append
        (naming [target]),
      ofRowCondition hd hs htree, ofOptionMapping hoptions,
      List.forall_mem_nil _⟩
  | _ => exact fault _

theorem ofDelete {target tree : Value} (h : AllBalanced (Leaf.ofDelete c target tree)) :
    Leads 0 0 (Layout.ofDelete c target tree) := by
  obtain ⟨htarget, htree⟩ := Leaf.allBalanced_cons.1 h
  have hword : Parens.Leads 0 0 "DELETE FROM ".toList := by decide
  refine joinPresent (by decide) ?_
  simp only [List.forall_mem_cons]
  exact ⟨(naming [target]).append (fixed (hword.concat (quoted hd htarget))),
    ofRowCondition hd hs htree,
    List.forall_mem_nil _⟩

end Leads

/-- The call for keywords has the names of two parameters in it. -/
theorem leads_keywordsText {textName indexName : String} (htext : Parens.Leads 0 0 textName.toList)
    (hindex : Parens.Leads 0 0 indexName.toList) (statistics : Bool) :
    Parens.Leads 0 0 (keywordsText textName indexName statistics).toList := by
  have hopen : Parens.Leads 0 1 "CALL KEYWORDS(".toList := by decide
  have hmode : Parens.Leads 1 1 (if statistics then ", 1" else "").toList := by
    cases statistics <;> decide
  exact ((((hopen.concat (htext.level 1)).concat (by decide)).concat (hindex.level 1)).concat
    hmode).concat (by decide)

end SearchSql.Layout

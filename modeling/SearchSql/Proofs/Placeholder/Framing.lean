import SearchSql.Proofs.Layout.Numbers
import SearchSql.Proofs.Placeholder.Leaf
import SearchSql.Proofs.Placeholder.Quoting

/-!
# Layouts around what is supplied

A layout is framed around the leaves of a request when it binds their values and their
parameters in their order, and is clear if they are free of marks. Each way of putting
layouts together keeps this, since the fixed words between the leaves keep them apart.

## Main definitions

* `Layout.cells` — a layout with a place to be filled for each value.
* `Layout.FramedBy`, `Layout.InOrder` — one layout around leaves, and several.

## Main statements

* `Layout.charsAt_eq_fill` — what is written is the cells with the numbers filled in.
* `Layout.FramedBy.seam` — layouts with an insulating text between them.
-/
namespace SearchSql

open Placeholder

/-- No mark stands in what is supplied; of parameters, in their names. -/
def Leaf.Free : Leaf → Prop
  | .quoted s => Placeholder.Free s.toList
  | .verbatim s => Placeholder.Free s.toList
  | .given params => ∀ s, .text s ∈ params.keys → Placeholder.Free s.toList
  | .bound _ => True

/-- Leaves that supply the same values and parameters as others, and no fewer texts. -/
structure Leaf.Covers (a b : List Leaf) : Prop where
  values_eq : a.filterMap Leaf.value? = b.filterMap Leaf.value?
  params_eq : a.filterMap Leaf.params? = b.filterMap Leaf.params?
  subset : b ⊆ a

namespace Leaf.Covers

theorem refl (a : List Leaf) : Covers a a := ⟨rfl, rfl, List.Subset.refl a⟩

theorem append {a a' b b' : List Leaf} (ha : Covers a a') (hb : Covers b b') :
    Covers (a ++ b) (a' ++ b') where
  values_eq := by rw [List.filterMap_append, List.filterMap_append, ha.values_eq, hb.values_eq]
  params_eq := by rw [List.filterMap_append, List.filterMap_append, ha.params_eq, hb.params_eq]
  subset := List.append_subset.2 ⟨List.subset_append_of_subset_left b ha.subset,
    List.subset_append_of_subset_right a hb.subset⟩

/-- A text that is not written. -/
theorem cons {a b : List Leaf} (h : Covers a b) {leaf : Leaf} (hvalue : leaf.value? = none)
    (hparams : leaf.params? = none) : Covers (leaf :: a) b where
  values_eq := by rw [List.filterMap_cons_none hvalue, h.values_eq]
  params_eq := by rw [List.filterMap_cons_none hparams, h.params_eq]
  subset := List.subset_cons_of_subset leaf h.subset

end Leaf.Covers

/-- The cells of a piece. -/
def Piece.cells : Piece → Cells
  | .text s => s.toList.map some
  | .bind _ => [none]
  | _ => []

namespace Layout

/-- The cells of a layout: a place to be filled for each value that is bound. -/
def cells (l : Layout) : Cells := l.flatMap Piece.cells

@[simp] theorem cells_nil : cells [] = [] := rfl

@[simp] theorem cells_cons (piece : Piece) (l : Layout) :
    cells (piece :: l) = piece.cells ++ cells l := rfl

@[simp] theorem cells_naming (names : List Value) : (naming names).cells = [] := by
  rcases naming_eq_nil_or names with h | h <;> rw [h] <;> rfl

@[simp] theorem cells_append (l r : Layout) : (l ++ r).cells = l.cells ++ r.cells :=
  List.flatMap_append

theorem fill_map_some_append (cs : List Char) (cells : Cells) (numbers : List Nat) :
    fill (cs.map some ++ cells) numbers = cs ++ fill cells numbers := by
  induction cs with
  | nil => rfl
  | cons c cs ih => simp [fill, ih]

/-- **What is written is the cells with the numbers filled in.** -/
theorem charsAt_eq_fill (l : Layout) (p : Params) :
    l.charsAt ":qp" p = fill l.cells (l.numbers ":qp" p) := by
  induction l generalizing p with
  | nil => rfl
  | cons piece l ih =>
    rw [charsAt_cons, cells_cons, ih]
    cases piece with
    | text s => exact (fill_map_some_append ..).symm
    | bind v =>
      simp [Params.written, Piece.cells, numbers, fill, Params.nextName, digits, mark, Params.after]
    | merge | indexes | fault => rfl

theorem count_none_cells (stem : String) (l : Layout) (p : Params) :
    l.cells.count none = (l.numbers stem p).length := by
  induction l generalizing p with
  | nil => rfl
  | cons piece l ih =>
    rw [cells_cons, List.count_append, ih (p.after stem piece)]
    cases piece with
    | text s => simp [Piece.cells, numbers, List.count_eq_zero]
    | bind v => simp [Piece.cells, numbers, Params.after, Nat.add_comm]
    | merge | indexes | fault => simp [Piece.cells, numbers]

/-- A layout binds the values and the parameters of some leaves in their order, and is clear
if the leaves are free of marks. -/
structure FramedBy (leaves : List Leaf) (l : Layout) : Prop where
  binds_eq : l.binds = leaves.filterMap Leaf.value?
  merges_eq : l.merges = leaves.filterMap Leaf.params?
  clear : (∀ leaf ∈ leaves, leaf.Free) → Clear l.cells

namespace FramedBy

variable {a b : List Leaf} {l r : Layout} {s t : String}

/-- Numbered names have the mark, so none of them is supplied. -/
theorem unnumbered (h : FramedBy a l) (hfree : ∀ leaf ∈ a, leaf.Free) : l.Unnumbered ":qp" := by
  intro given hgiven n hkey
  rw [h.merges_eq] at hgiven
  obtain ⟨leaf, hleaf, hsome⟩ := List.mem_filterMap.1 hgiven
  cases leaf with
  | given params =>
    obtain rfl := Option.some.inj hsome
    have hmark := hfree _ hleaf _ hkey
    exact hmark ⟨[], digits n, by simp [Params.numbered, mark, digits]⟩
  | _ => cases hsome

theorem nil : FramedBy [] [] := ⟨rfl, rfl, fun _ => clear_nil⟩

/-- A text that is written as it is. -/
theorem verbatim (s : String) : FramedBy [.verbatim s] [.text s] where
  binds_eq := rfl
  merges_eq := rfl
  clear h := by
    have hfree := h (.verbatim s) (by simp)
    simpa [cells, Piece.cells] using clear_map_some hfree

/-- A name that is quoted. -/
theorem quoted {c : Connection} (hd : c.dialect.KeepsFree) (s : String) :
    FramedBy [.quoted s] [.text (c.quote s)] where
  binds_eq := rfl
  merges_eq := rfl
  clear h := by
    have hfree := hd.free_quoteChars (h (.quoted s) (by simp))
    simpa [cells, Piece.cells, Connection.quote] using clear_map_some hfree

/-- A fixed text. -/
theorem fixed (h : Placeholder.Free s.toList) : FramedBy [] [.text s] where
  binds_eq := rfl
  merges_eq := rfl
  clear _ := by simpa [cells, Piece.cells] using clear_map_some h

theorem bind (v : Value) : FramedBy [.bound v] [.bind v] where
  binds_eq := rfl
  merges_eq := rfl
  clear _ := clear_none

theorem fault (f : Fault) : FramedBy [] [.fault f] := ⟨rfl, rfl, fun _ => clear_nil⟩

theorem merge (params : Mapping) (h : FramedBy a l) :
    FramedBy (.given params :: a) (.merge params :: l) where
  binds_eq := h.binds_eq
  merges_eq := congrArg (params :: ·) h.merges_eq
  clear hfree := h.clear fun leaf hleaf => hfree leaf (List.mem_cons_of_mem _ hleaf)

theorem indexes (names : List String) (h : FramedBy a l) : FramedBy a (.indexes names :: l) :=
  ⟨h.binds_eq, h.merges_eq, h.clear⟩

/-- **Layouts with an insulating text between them.** -/
theorem seam (ha : FramedBy a l) (hs : insulates s.toList) (hb : FramedBy b r) :
    FramedBy (a ++ b) (l ++ .text s :: r) where
  binds_eq := by
    rw [binds_append, List.filterMap_append, ha.binds_eq, ← hb.binds_eq]
    rfl
  merges_eq := by
    rw [merges_append, List.filterMap_append, ha.merges_eq, ← hb.merges_eq]
    rfl
  clear h := by
    rw [cells_append, cells_cons]
    exact (ha.clear fun leaf hleaf => h leaf (List.mem_append_left _ hleaf)).seam hs
      (hb.clear fun leaf hleaf => h leaf (List.mem_append_right _ hleaf))

/-- A layout behind an insulating text. -/
theorem opened (hs : insulates s.toList) (h : FramedBy a l) : FramedBy a (.text s :: l) :=
  nil.seam hs h

/-- A layout in front of an insulating text. -/
theorem closed (h : FramedBy a l) (hs : insulates s.toList) : FramedBy a (l ++ [.text s]) := by
  simpa using h.seam hs nil

/-- Two texts one after the other are written as one. -/
theorem fuseBehind (h : FramedBy a (l ++ .text s :: .text t :: r)) :
    FramedBy a (l ++ .text (s ++ t) :: r) where
  binds_eq := by rw [← h.binds_eq, binds_append, binds_append]; rfl
  merges_eq := by rw [← h.merges_eq, merges_append, merges_append]; rfl
  clear hfree := by simpa [Piece.cells] using h.clear hfree

theorem fuse (h : FramedBy a (.text s :: .text t :: l)) : FramedBy a (.text (s ++ t) :: l) :=
  fuseBehind (l := []) h

/-- A layout behind a name and an insulating text. -/
theorem behindName {c : Connection} (hd : c.dialect.KeepsFree) (n : String)
    (hs : insulates s.toList) (h : FramedBy a l) :
    FramedBy (.quoted n :: a) (.text (c.quote n ++ s) :: l) :=
  fuse ((quoted hd n).seam hs h)

/-- A layout behind a text that is written as it is and an insulating one. -/
theorem behindText (t : String) (hs : insulates s.toList) (h : FramedBy a l) :
    FramedBy (.verbatim t :: a) (.text (t ++ s) :: l) :=
  fuse ((verbatim t).seam hs h)

theorem enclose (hs : insulates s.toList) (h : FramedBy a l) (ht : insulates t.toList) :
    FramedBy a (enclose s l t) := by
  simpa [Layout.enclose] using (h.closed ht).opened hs

/-- More texts may be supplied than are written. -/
theorem mono (h : FramedBy b l) (hab : Leaf.Covers a b) : FramedBy a l where
  binds_eq := h.binds_eq.trans hab.values_eq.symm
  merges_eq := h.merges_eq.trans hab.params_eq.symm
  clear hfree := h.clear fun leaf hleaf => hfree leaf (hab.subset hleaf)

/-- A layout that is left out supplies neither values nor parameters. -/
theorem covers_nil (h : FramedBy a []) : Leaf.Covers a [] :=
  ⟨h.binds_eq.symm, h.merges_eq.symm, List.nil_subset _⟩

theorem after (hs : insulates s.toList) (h : FramedBy a l) : FramedBy a (after s l) := by
  rw [Layout.after]
  split
  · rename_i hempty
    obtain rfl := List.isEmpty_iff.1 hempty
    exact h
  · exact h.opened hs

end FramedBy

/-- Layouts that are framed by the leaves of a list, one after the other. -/
inductive InOrder : List Leaf → List Layout → Prop where
  | nil : InOrder [] []
  | cons {a b : List Leaf} {l : Layout} {ls : List Layout} (ha : FramedBy a l)
    (hb : InOrder b ls) : InOrder (a ++ b) (l :: ls)

namespace InOrder

variable {a : List Leaf} {ls : List Layout} {s : String}

theorem map {α : Type} (xs : List α) {f : α → List Leaf} {g : α → Layout}
    (h : ∀ x ∈ xs, FramedBy (f x) (g x)) : InOrder (xs.flatMap f) (xs.map g) := by
  induction xs with
  | nil => exact nil
  | cons x xs ih =>
    rw [List.flatMap_cons, List.map_cons]
    exact cons (h x (List.mem_cons_self ..)) (ih fun y hy => h y (List.mem_cons_of_mem _ hy))

theorem singleton {l : Layout} (h : FramedBy a l) : InOrder a [l] := by
  simpa using cons h nil

theorem join (hs : insulates s.toList) (h : InOrder a ls) : FramedBy a (join s ls) := by
  induction h with
  | nil => exact .nil
  | cons ha hrest ih =>
    cases hrest with
    | nil => simpa using ha
    | cons hb hothers => exact ha.seam hs ih

/-- The layouts that are not left out supply as much as all do. -/
theorem exists_present (h : InOrder a ls) :
    ∃ b, InOrder b (ls.filter (!·.isEmpty)) ∧ Leaf.Covers a b := by
  induction h with
  | nil => exact ⟨[], nil, .refl _⟩
  | @cons a _ l _ ha _ ih =>
    obtain ⟨b, hb, hcovers⟩ := ih
    cases l with
    | nil => exact ⟨b, hb, ha.covers_nil.append hcovers⟩
    | cons piece l => exact ⟨a ++ b, cons ha hb, (Leaf.Covers.refl a).append hcovers⟩

theorem joinPresent (hs : insulates s.toList) (h : InOrder a ls) :
    FramedBy a (joinPresent s ls) := by
  obtain ⟨b, hb, hcovers⟩ := h.exists_present
  exact (hb.join hs).mono hcovers

theorem connect (word : String) (hword : insulates (") " ++ word ++ " (").toList)
    (h : InOrder a ls) : FramedBy a (connect word ls) := by
  obtain ⟨b, hb, hcovers⟩ := h.exists_present
  rw [Layout.connect]
  split
  · rename_i hnone
    rw [hnone] at hb
    cases hb
    exact FramedBy.nil.mono hcovers
  · exact (FramedBy.enclose (by decide) (hb.join hword) (by decide)).mono hcovers

end InOrder

end Layout

end SearchSql

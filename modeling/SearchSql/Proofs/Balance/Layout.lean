import SearchSql.Layout.Selection
import SearchSql.Proofs.Balance.Basic
import SearchSql.Proofs.Placeholder.Clause

/-!
# Layouts with balanced parentheses

The parentheses of a statement stand in its texts: the name of a parameter has none if the stem
has none that are left open. So a layout is balanced, whatever parameters are bound before it,
when its texts are balanced in their order.

## Main definitions

* `Layout.Leads` — how many parentheses are open before and after a layout.

## Main statements

* `Layout.Leads.charsAt` — what is written is balanced as the layout is.
* `Layout.Leads.join`, `Layout.Leads.connect` — layouts that are put together.
-/
namespace SearchSql

open Parens

/-- The text of a piece, where there is any. -/
def Piece.words : Piece → List Char
  | .text s => s.toList
  | _ => []

namespace Layout

/-- A layout that leads from one number of open parentheses to another. -/
def Leads (m n : Nat) (l : Layout) : Prop := Parens.Leads m n (l.flatMap Piece.words)

namespace Leads

theorem nil (m : Nat) : Leads m m [] := rfl

/-- A text and what stands behind it. -/
theorem text {m n k : Nat} {s : String} {l : Layout} (hs : Parens.Leads m n s.toList)
    (hl : Leads n k l) : Leads m k (.text s :: l) :=
  hs.append hl

theorem fixed {m n : Nat} {s : String} (hs : Parens.Leads m n s.toList) :
    Leads m n [.text s] :=
  text hs (nil n)

theorem merge {m n : Nat} {l : Layout} (params : Mapping) (hl : Leads m n l) :
    Leads m n (.merge params :: l) := hl

theorem indexes {m n : Nat} {l : Layout} (names : List String) (hl : Leads m n l) :
    Leads m n (.indexes names :: l) := hl

theorem append {m n k : Nat} {l r : Layout} (hl : Leads m n l) (hr : Leads n k r) :
    Leads m k (l ++ r) := by
  rw [Leads, List.flatMap_append]
  exact Parens.Leads.append hl hr

/-- A balanced layout at any depth. -/
theorem level {l : Layout} (h : Leads 0 0 l) (m : Nat) : Leads m m l :=
  Parens.Leads.level h m

/-- Balanced layouts with a text between them that closes only what is open around them. -/
theorem join {m : Nat} {separator : String} (hs : Parens.Leads m m separator.toList)
    {ls : List Layout} (h : ∀ l ∈ ls, Leads 0 0 l) : Leads m m (Layout.join separator ls) := by
  induction ls with
  | nil => exact nil m
  | cons l rest ih =>
    have hl := (h l (List.mem_cons_self ..)).level m
    have hrest := ih fun other hother => h other (List.mem_cons_of_mem _ hother)
    cases rest with
    | nil => exact hl
    | cons next others => exact hl.append (hrest.text hs)

theorem joinPresent {separator : String} (hs : Parens.Leads 0 0 separator.toList)
    {ls : List Layout} (h : ∀ l ∈ ls, Leads 0 0 l) :
    Leads 0 0 (Layout.joinPresent separator ls) :=
  join hs fun l hl => h l (List.mem_of_mem_filter hl)

theorem enclose {m n k : Nat} {opening closing : String} (hopen : Parens.Leads m n opening.toList)
    {l : Layout} (hl : Leads n n l) (hclose : Parens.Leads n k closing.toList) :
    Leads m k (Layout.enclose opening l closing) :=
  (hl.append (fixed hclose)).text hopen

theorem after {opening : String} (hs : Parens.Leads 0 0 opening.toList) {l : Layout}
    (hl : Leads 0 0 l) : Leads 0 0 (Layout.after opening l) := by
  rw [Layout.after]
  split
  · exact nil 0
  · exact hl.text hs

/-- Balanced layouts in parentheses of their own. -/
theorem connect {word : String} (hw : Parens.Leads 0 0 word.toList) {ls : List Layout}
    (h : ∀ l ∈ ls, Leads 0 0 l) : Leads 0 0 (Layout.connect word ls) := by
  rw [Layout.connect]
  split
  · exact nil 0
  · have hseparator : Parens.Leads 1 1 (") " ++ word ++ " (").toList := by
      simp only [String.toList_append]
      exact (Parens.Leads.append (m := 0) (by decide) hw).append (by decide)
    refine enclose (by decide) (join hseparator fun l hl => ?_) (by decide)
    exact h l (List.mem_of_mem_filter hl)

end Leads

/-! ## What is written -/

theorem leads_toString (n : Nat) : Parens.Leads 0 0 (toString n).toList := by
  refine leads_of_notMem ?_ ?_
  · simpa [toString] using notMem_toDigits (a := '(') (by decide) n
  · simpa [toString] using notMem_toDigits (a := ')') (by decide) n

theorem leads_nextName {stem : String} (hstem : Parens.Leads 0 0 stem.toList) (p : Params) :
    Parens.Leads 0 0 (p.nextName stem).toList := by
  rw [Params.nextName, String.toList_append]
  exact hstem.append (leads_toString p.size)

/-- **What is written is balanced as the layout is**, whatever parameters are bound before it. -/
theorem Leads.charsAt {stem : String} (hstem : Parens.Leads 0 0 stem.toList) {m n : Nat}
    {l : Layout} (h : Leads m n l) (p : Params) : Parens.Leads m n (l.charsAt stem p) := by
  induction l generalizing m p with
  | nil => exact h
  | cons piece l ih =>
    rw [charsAt_cons]
    cases piece with
    | text s =>
      -- the depth between the text and what stands behind it
      obtain ⟨k, hs, hl⟩ := Option.bind_eq_some_iff.1 ((climb_append ..).symm.trans h)
      exact Parens.Leads.append hs (ih hl p)
    | bind v => exact ((leads_nextName hstem p).level m).append (ih h _)
    | merge | indexes | fault => exact ih h _

end Layout

end SearchSql

import SearchSql.Dialect
import SearchSql.Proofs.Placeholder.Reading

/-!
# Quoting and placeholders

A dialect that puts no mark of a placeholder into a part of a name puts none into a name,
since the points between the parts keep them apart.

## Main statements

* `Dialect.KeepsFree.free_quoteChars` — a quoted name has no mark unless the name has one.
* `Dialect.keepsFree_sphinx`, `Dialect.keepsFree_manticore` — the two dialects.
-/
namespace SearchSql

open Placeholder

namespace Placeholder

theorem Free.of_infix {cs ds : List Char} (h : Free ds) (hcs : cs <:+: ds) : Free cs :=
  fun hmark => h (hmark.trans hcs)

theorem free_nil : Free [] := by
  intro h
  have hlen := h.length_le
  simp [mark] at hlen

theorem free_iff_clear {cs : List Char} : Free cs ↔ Clear (cs.map some) := by
  refine ⟨clear_map_some, fun h hmark => h.mark_notInfix (hmark.map some)⟩

/-- Texts with an insulating one between them have no mark unless one of them has. -/
theorem Free.seam {cs between ds : List Char} (hcs : Free cs) (hbetween : insulates between)
    (hds : Free ds) : Free (cs ++ (between ++ ds)) := by
  rw [free_iff_clear] at hcs hds ⊢
  simpa using hcs.seam hbetween hds

theorem free_intercalate {between : List Char} (h : insulates between) {parts : List (List Char)}
    (hparts : ∀ part ∈ parts, Free part) : Free (between.intercalate parts) := by
  induction parts with
  | nil => exact free_nil
  | cons part rest ih =>
    have hpart := hparts part (List.mem_cons_self ..)
    cases rest with
    | nil => simpa [List.intercalate] using hpart
    | cons next others =>
      have hrest := ih fun other hother => hparts other (List.mem_cons_of_mem _ hother)
      rw [List.intercalate_cons_cons, List.append_assoc]
      exact hpart.seam h hrest

end Placeholder

namespace Dialect

/-- Quoting puts no mark into a part of a name. -/
def KeepsFree (d : Dialect) : Prop := ∀ part, Free part → Free (d.quotePart part)

theorem infix_intercalate {α : Type} {part between : List α} {parts : List (List α)}
    (h : part ∈ parts) : part <:+: between.intercalate parts := by
  induction parts with
  | nil => simp at h
  | cons first rest ih =>
    cases rest with
    | nil =>
      obtain rfl := List.mem_singleton.1 h
      simp [List.intercalate_singleton]
    | cons next others =>
      rw [List.intercalate_cons_cons, List.append_assoc]
      rcases List.mem_cons.1 h with rfl | h
      · exact List.infix_append_left
      · exact List.infix_append_of_infix_right (List.infix_append_of_infix_right (ih h))

/-- A part of a name that is split at a character stands in the name. -/
theorem infix_of_mem_splitOn {c : Char} {part cs : List Char} (h : part ∈ cs.splitOn c) :
    part <:+: cs := by
  have hsplit : [c].intercalate (cs.splitOn c) = cs := List.intercalate_splitOn c
  rw [← hsplit]
  exact infix_intercalate h

/-- **A quoted name has no mark unless the name has one.** -/
theorem KeepsFree.free_quoteChars {d : Dialect} (hd : d.KeepsFree) {cs : List Char}
    (h : Free cs) : Free (d.quoteChars cs) := by
  rw [quoteChars]
  split
  · exact h
  · refine free_intercalate (by decide) ?_
    intro part hpart
    obtain ⟨given, hgiven, rfl⟩ := List.mem_map.1 hpart
    have hfree := h.of_infix (infix_of_mem_splitOn hgiven)
    rw [quoteUnquoted]
    split
    · exact hfree
    · exact hd given hfree

theorem keepsFree_sphinx : sphinx.KeepsFree := fun _ h => h

theorem keepsFree_manticore : manticore.KeepsFree := by
  intro part h
  have hmark : insulates [backQuote] := by decide
  simpa [manticore] using (free_nil.seam hmark h).seam hmark free_nil

end Dialect

end SearchSql

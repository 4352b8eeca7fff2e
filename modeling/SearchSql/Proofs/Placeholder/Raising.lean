import SearchSql.Proofs.Layout.Shift
import SearchSql.Proofs.Placeholder.Framing

/-!
# Raised placeholders

The numbers of the placeholders of a text can be raised without knowing how the text was
written. What a layout writes behind other parameters is what it writes by itself, raised by
how many parameters there are.

## Main definitions

* `Placeholder.raise` — a text with the numbers of its placeholders raised.

## Main statements

* `Placeholder.raise_fill` — raising the numbers that were filled in.
* `Layout.charsAt_raise` — what a layout writes behind other parameters.
* `Layout.exists_named?_raised` — what its placeholders are bound to.
-/
namespace SearchSql

namespace Placeholder

/-- The rest of a text behind some characters, with the numbers of its placeholders raised. -/
def raiseFrom (n : Nat) : Nat → List Char → List Char
  | _, [] => []
  | skipped + 1, _ :: rest => raiseFrom n skipped rest
  | 0, c :: rest =>
    match digitsAt? (c :: rest) with
    | some found =>
      mark ++ digits (Nat.ofDigitChars 10 found 0 + n) ++ raiseFrom n (found.length + 2) rest
    | none => c :: raiseFrom n 0 rest

/-- A text with the numbers of its placeholders raised. -/
def raise (n : Nat) (cs : List Char) : List Char := raiseFrom n 0 cs

example : raise 3 "a=:qp9 AND b=:qpx".toList = "a=:qp12 AND b=:qpx".toList := by decide +kernel

theorem raiseFrom_append (n : Nat) (skipped rest : List Char) :
    raiseFrom n skipped.length (skipped ++ rest) = raise n rest := by
  induction skipped with
  | nil => rfl
  | cons c skipped ih => exact ih

theorem ofDigitChars_digits (n : Nat) : Nat.ofDigitChars 10 (digits n) 0 = n := by
  rw [digits, Nat.toString_eq_repr, Nat.toList_repr, Nat.ofDigitChars_ten_toDigits]

theorem digits_injective : Function.Injective digits :=
  Function.LeftInverse.injective (g := (Nat.ofDigitChars 10 · 0)) ofDigitChars_digits

/-- **Raising changes the numbers that were filled in.** -/
theorem raise_fill {cells : Cells} (h : Clear cells) {numbers : List Nat}
    (hlen : cells.count none = numbers.length) (n : Nat) :
    raise n (fill cells numbers) = fill cells (numbers.map (· + n)) := by
  induction cells generalizing numbers with
  | nil => rfl
  | cons cell cells ih =>
    cases cell with
    | some c =>
      have hlen' : cells.count none = numbers.length := by simpa using hlen
      rw [fill, fill, raise, raiseFrom, h.digitsAt?_eq_none hlen']
      exact congrArg (c :: ·) (ih h.tail hlen')
    | none =>
      cases numbers with
      | nil => simp at hlen
      | cons m numbers =>
        have hlen' : cells.count none = numbers.length := by simpa using hlen
        have hfound : digitsAt? (':' :: 'q' :: 'p' :: (digits m ++ fill cells numbers)) =
            some (digits m) := by
          simp [digitsAt?, h.takeWhile_isDigit hlen' m, digits_ne_nil]
        have hrest : raiseFrom n ((digits m).length + 2)
            ('q' :: 'p' :: (digits m ++ fill cells numbers)) = raise n (fill cells numbers) :=
          raiseFrom_append n ('q' :: 'p' :: digits m) _
        rw [List.map_cons, fill, fill, mark, List.append_assoc, raise]
        simp only [List.cons_append, List.nil_append]
        rw [raiseFrom, hfound]
        simp only [ofDigitChars_digits, hrest, ih h.tail hlen', mark]
        rfl

theorem Clear.of_isInfix {part cells : Cells} (h : Clear cells) (hpart : part <:+: cells) :
    Clear part where
  mark_notInfix := fun hmark => h.mark_notInfix (hmark.trans hpart)
  digit_notInfix := fun d hd hdigit => h.digit_notInfix d hd (hdigit.trans hpart)

end Placeholder

namespace Layout

open Params Placeholder

theorem cells_isInfix {l whole : Layout} (h : l <:+: whole) : l.cells <:+: whole.cells :=
  h.flatMap Piece.cells

/-- **What a layout writes behind other parameters is what it writes by itself, raised.** -/
theorem charsAt_raise {l : Layout} {p : Params} (hclear : Clear l.cells)
    (hl : l.Unnumbered ":qp") (hnew : l.NewTo p) (hp : p.WellNumbered ":qp") :
    l.charsAt ":qp" p = raise p.size (l.charsAt ":qp" .empty) := by
  rw [charsAt_eq_fill, charsAt_eq_fill, raise_fill hclear (count_none_cells ..),
    numbers_continues hl hnew hp (.start ":qp" p)]

/-- **A placeholder and the raised one are bound to the same value**, whatever is written
behind. -/
theorem exists_named?_raised {l behind : Layout} {p : Params} (hclear : Clear l.cells)
    (hl : l.Unnumbered ":qp") (hnew : l.NewTo p) (hp : p.WellNumbered ":qp")
    (hbehind : behind.Unnumbered ":qp") {n : Nat}
    (hn : digits n ∈ read (l.charsAt ":qp" .empty)) :
    ∃ v, (l.paramsAfter ":qp" .empty).entries.named? (numbered ":qp" n) = some v ∧
      (behind.paramsAfter ":qp" (l.paramsAfter ":qp" p)).entries.named?
        (numbered ":qp" (n + p.size)) = some v := by
  have hempty := wellNumbered_empty ":qp"
  have hcontinues := continues_paramsAfter hl hnew hp (.start ":qp" p)
  rw [charsAt_eq_fill, read_fill hclear (count_none_cells ..)] at hn
  obtain ⟨m, hm, heq⟩ := List.mem_map.1 hn
  obtain rfl := digits_injective heq
  obtain ⟨v, hv⟩ := Option.isSome_iff_exists.1 (isSome_named?_numbers hl hempty hm)
  refine ⟨v, hv, ?_⟩
  have hlt : m + p.size < (l.paramsAfter ":qp" p).size := by
    have hbound := wellNumbered_paramsAfter hl hempty m
      (Mapping.isSome_named?_iff.1 (Option.isSome_of_eq_some hv))
    have hsize := hcontinues.size_eq
    omega
  rw [named?_paramsAfter hbehind hlt, hcontinues.named?_raised hp m, hv]

end Layout

end SearchSql

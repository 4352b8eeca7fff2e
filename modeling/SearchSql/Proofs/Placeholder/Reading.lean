import Mathlib

/-!
# Reading placeholders

A placeholder is the mark `:qp` and decimal digits. The places at which a text has one are
read off without knowing how it was written. A text written as cells, some of which are to
be filled with placeholders, has no others, as long as no mark stands in the cells and no
digit follows a place to be filled.

## Main definitions

* `Placeholder.read` — the digits of the placeholders of a text.
* `Placeholder.fill` — cells with placeholders in the empty ones.
* `Placeholder.Clear` — no mark and no digit where it would be misread.
* `Placeholder.insulates` — whether a text keeps what stands around it apart.

## Main statements

* `Placeholder.read_fill` — what is filled in is what is read.
* `Placeholder.Clear.seam` — parts with an insulating text between them.
-/
namespace SearchSql.Placeholder

/-- How a placeholder begins. -/
def mark : List Char := [':', 'q', 'p']

/-- The digits of the placeholder at the start of a text, if there is one. -/
def digitsAt? : List Char → Option (List Char)
  | ':' :: 'q' :: 'p' :: rest =>
    let digits := rest.takeWhile Char.isDigit
    if digits.isEmpty then none else some digits
  | _ => none

/-- The digits of the placeholders of a text, from left to right. -/
def read : List Char → List (List Char)
  | [] => []
  | c :: rest => (digitsAt? (c :: rest)).toList ++ read rest

/-- The digits of a number. -/
def digits (n : Nat) : List Char := (toString n).toList

/-- A text with places to be filled. -/
abbrev Cells := List (Option Char)

/-- The text with numbered placeholders in the places to be filled. -/
def fill : Cells → List Nat → List Char
  | [], _ => []
  | some c :: cells, numbers => c :: fill cells numbers
  | none :: cells, n :: numbers => mark ++ digits n ++ fill cells numbers
  | none :: cells, [] => fill cells []

/-- No mark stands in a text. -/
def Free (cs : List Char) : Prop := ¬ mark <:+: cs

/-- No mark stands in the cells, and no digit behind a place to be filled. -/
structure Clear (cells : Cells) : Prop where
  mark_notInfix : ¬ mark.map some <:+: cells
  digit_notInfix : ∀ d, d.isDigit = true → ¬ [none, some d] <:+: cells

/-! ## Reading -/

theorem all_isDigit_digits (n : Nat) : ∀ c ∈ digits n, c.isDigit = true := by
  intro c hc
  rw [digits, Nat.toString_eq_repr, Nat.toList_repr] at hc
  exact Nat.isDigit_of_mem_toDigits (by decide) (by decide) hc

theorem digits_ne_nil (n : Nat) : digits n ≠ [] := by
  rw [digits, Nat.toString_eq_repr, Nat.toList_repr]
  exact Nat.toDigits_ne_nil

/-- Nothing is read off a character other than the first of the mark. -/
theorem read_cons_of_ne {c : Char} (h : c ≠ ':') (cs : List Char) : read (c :: cs) = read cs := by
  have hnone : digitsAt? (c :: cs) = none := by
    unfold digitsAt?
    split
    · rename_i heq
      simp only [List.cons.injEq] at heq
      exact absurd heq.1 h
    · rfl
  rw [read, hnone]
  rfl

theorem read_append_of_notMem {cs : List Char} (h : ':' ∉ cs) (rest : List Char) :
    read (cs ++ rest) = read rest := by
  induction cs with
  | nil => rfl
  | cons c cs ih =>
    rw [List.mem_cons, not_or] at h
    rw [List.cons_append, read_cons_of_ne (Ne.symm h.1), ih h.2]

/-- A character other than the first of the mark that is written comes from a cell. -/
theorem cons_of_fill_eq_cons {cells : Cells} {numbers : List Nat} {c : Char} {cs : List Char}
    (h : fill cells numbers = c :: cs) (hlen : cells.count none = numbers.length) (hc : c ≠ ':') :
    ∃ rest, cells = some c :: rest ∧ fill rest numbers = cs ∧
      rest.count none = numbers.length := by
  cases cells with
  | nil => simp [fill] at h
  | cons cell rest =>
    cases cell with
    | none =>
      cases numbers with
      | nil => simp at hlen
      | cons n numbers =>
        simp only [fill, mark, List.cons_append, List.cons.injEq] at h
        exact absurd h.1.symm hc
    | some d =>
      simp only [fill, List.cons.injEq] at h
      obtain ⟨rfl, hrest⟩ := h
      exact ⟨rest, rfl, hrest, by simpa using hlen⟩

theorem Clear.tail {cell : Option Char} {cells : Cells} (h : Clear (cell :: cells)) :
    Clear cells where
  mark_notInfix := fun hmark => h.mark_notInfix (List.infix_cons hmark)
  digit_notInfix := fun d hd hdigit => h.digit_notInfix d hd (List.infix_cons hdigit)

/-- No placeholder begins with a cell. -/
theorem Clear.digitsAt?_eq_none {c : Char} {cells : Cells} (h : Clear (some c :: cells))
    {numbers : List Nat} (hlen : cells.count none = numbers.length) :
    digitsAt? (c :: fill cells numbers) = none := by
  unfold digitsAt?
  split
  · rename_i cs heq
    obtain ⟨rfl, htail⟩ := List.cons.inj heq
    -- the mark would stand in the cells
    obtain ⟨rest, rfl, hfill, hrest⟩ := cons_of_fill_eq_cons htail hlen (by decide)
    obtain ⟨others, rfl, -, -⟩ := cons_of_fill_eq_cons hfill hrest (by decide)
    exact absurd ⟨[], others, rfl⟩ h.mark_notInfix
  · rfl

/-- The digits of a placeholder end where the next cell begins. -/
theorem Clear.takeWhile_isDigit {cells : Cells} (h : Clear (none :: cells)) {numbers : List Nat}
    (hlen : cells.count none = numbers.length) (n : Nat) :
    (digits n ++ fill cells numbers).takeWhile Char.isDigit = digits n := by
  have hnil : (fill cells numbers).takeWhile Char.isDigit = [] := by
    cases hfill : fill cells numbers with
    | nil => rfl
    | cons c cs =>
      by_cases hd : c.isDigit = true
      · have hc : c ≠ ':' := by
          rintro rfl
          simp at hd
        obtain ⟨rest, rfl, -, -⟩ := cons_of_fill_eq_cons hfill hlen hc
        exact absurd ⟨[], rest, rfl⟩ (h.digit_notInfix c hd)
      · simp [hd]
  rw [List.takeWhile_append_of_pos (all_isDigit_digits n), hnil, List.append_nil]

/-- **What is filled in is what is read.** -/
theorem read_fill {cells : Cells} (h : Clear cells) {numbers : List Nat}
    (hlen : cells.count none = numbers.length) :
    read (fill cells numbers) = numbers.map digits := by
  induction cells generalizing numbers with
  | nil =>
    obtain rfl : numbers = [] := List.length_eq_zero_iff.1 (by simpa using hlen.symm)
    rfl
  | cons cell cells ih =>
    cases cell with
    | some c =>
      have hlen' : cells.count none = numbers.length := by simpa using hlen
      rw [fill, read, h.digitsAt?_eq_none hlen', ih h.tail hlen']
      rfl
    | none =>
      cases numbers with
      | nil => simp at hlen
      | cons n numbers =>
        have hlen' : cells.count none = numbers.length := by simpa using hlen
        have hskip : ':' ∉ 'q' :: 'p' :: digits n := by
          intro hmem
          simp only [List.mem_cons, Char.reduceEq, false_or] at hmem
          exact absurd (all_isDigit_digits n _ hmem) (by decide)
        have hread := read_append_of_notMem hskip (fill cells numbers)
        rw [fill, mark]
        simp only [List.cons_append, List.nil_append, read, digitsAt?, h.takeWhile_isDigit hlen' n]
          at hread ⊢
        rw [hread, ih h.tail hlen']
        simp [digits_ne_nil]

/-! ## Clear cells -/

/-- A text without the first character of the mark has no mark. -/
theorem free_of_notMem {cs : List Char} (h : ':' ∉ cs) : Free cs :=
  fun hmark => h (hmark.subset (by simp [mark]))

@[simp] theorem clear_nil : Clear [] where
  mark_notInfix := by simp [mark]
  digit_notInfix := by simp

@[simp] theorem clear_none : Clear [none] where
  mark_notInfix := by
    intro h
    have hlen := h.length_le
    simp [mark] at hlen
  digit_notInfix := by
    intro d _ h
    have hlen := h.length_le
    simp at hlen

theorem clear_map_some {cs : List Char} (h : Free cs) : Clear (cs.map some) where
  mark_notInfix := by
    intro hmark
    obtain ⟨found, hfound, heq⟩ := List.infix_map_iff.1 hmark
    obtain rfl : mark = found := List.map_injective_iff.2 (fun _ _ => Option.some.inj) heq
    exact h hfound
  digit_notInfix := by
    intro d _ hdigit
    have hmem : none ∈ cs.map some := hdigit.subset (by simp)
    simp at hmem

/-- A cell that is followed by another one in a mark, or in a placeholder that is misread. -/
inductive Meets : Option Char → Option Char → Prop where
  | first : Meets (some ':') (some 'q')
  | second : Meets (some 'q') (some 'p')
  | digit {d : Char} (h : d.isDigit = true) : Meets none (some d)

/-- What stands across the border of two parts has the cells at the border side by side. -/
theorem exists_border_of_infix_append {w a b : Cells} (h : w <:+: a ++ b) (ha : ¬ w <:+: a)
    (hb : ¬ w <:+: b) :
    ∃ u x y v, w = u ++ x :: y :: v ∧ x ∈ a.getLast? ∧ y ∈ b.head? := by
  rcases List.infix_append_iff_ne_nil.1 h with h | h | ⟨left, right, hleft, hright, rfl, hl, hr⟩
  · exact absurd h ha
  · exact absurd h hb
  · obtain ⟨u, x, rfl⟩ := (List.eq_nil_or_concat' left).resolve_left hleft
    obtain ⟨y, v, rfl⟩ := List.exists_cons_of_ne_nil hright
    obtain ⟨before, rfl⟩ := hl
    obtain ⟨behind, rfl⟩ := hr
    exact ⟨u, x, y, v, by simp, by simp [← List.append_assoc], by simp⟩

/-- Parts that do not meet stay clear side by side. -/
theorem Clear.append {a b : Cells} (ha : Clear a) (hb : Clear b)
    (h : ∀ x ∈ a.getLast?, ∀ y ∈ b.head?, ¬ Meets x y) : Clear (a ++ b) where
  mark_notInfix := by
    intro hmark
    obtain ⟨u, x, y, v, heq, hx, hy⟩ :=
      exists_border_of_infix_append hmark ha.mark_notInfix hb.mark_notInfix
    refine h x hx y hy ?_
    match u with
    | [] =>
      obtain ⟨rfl, rfl, -⟩ : some ':' = x ∧ some 'q' = y ∧ [some 'p'] = v := by
        simpa [mark] using heq
      exact .first
    | [_] =>
      obtain ⟨-, rfl, rfl, -⟩ : _ ∧ some 'q' = x ∧ some 'p' = y ∧ [] = v := by
        simpa [mark] using heq
      exact .second
    | _ :: _ :: u =>
      have hlen := congrArg List.length heq
      simp [mark] at hlen
      omega
  digit_notInfix := by
    intro d hd hdigit
    obtain ⟨u, x, y, v, heq, hx, hy⟩ :=
      exists_border_of_infix_append hdigit (ha.digit_notInfix d hd) (hb.digit_notInfix d hd)
    refine h x hx y hy ?_
    match u with
    | [] =>
      obtain ⟨rfl, rfl, -⟩ : none = x ∧ some d = y ∧ [] = v := by simpa using heq
      exact .digit hd
    | _ :: u =>
      have hlen := congrArg List.length heq
      simp at hlen
      omega

/-- Whether a text keeps what stands around it apart. -/
def insulates (cs : List Char) : Bool :=
  (cs.head?.any fun c => c != 'q' && c != 'p' && !c.isDigit) &&
    (cs.getLast?.any fun c => c != 'q') && !cs.contains ':'

/-- **Parts with an insulating text between them stay clear.** -/
theorem Clear.seam {a b : Cells} (ha : Clear a) {cs : List Char} (hcs : insulates cs)
    (hb : Clear b) : Clear (a ++ (cs.map some ++ b)) := by
  simp only [insulates, Bool.and_eq_true, Bool.not_eq_true', List.contains_eq_mem,
    decide_eq_false_iff_not] at hcs
  obtain ⟨⟨hhead, hlast⟩, hcolon⟩ := hcs
  obtain ⟨first, hfirst, hhead⟩ := (Option.any_eq_true ..).1 hhead
  obtain ⟨last, hlast', hlast⟩ := (Option.any_eq_true ..).1 hlast
  have hright : Clear (cs.map some ++ b) := by
    refine (clear_map_some (free_of_notMem hcolon)).append hb ?_
    intro x hx y _ hmeets
    rw [List.getLast?_map, hlast'] at hx
    cases hx
    cases hmeets with
    | first => exact hcolon (List.mem_of_getLast? hlast')
    | second => simp at hlast
  refine ha.append hright ?_
  intro x _ y hy hmeets
  rw [List.head?_append, List.head?_map, hfirst] at hy
  cases hy
  cases hmeets with
  | digit hd => simp [hd] at hhead
  | first | second => simp at hhead

end SearchSql.Placeholder

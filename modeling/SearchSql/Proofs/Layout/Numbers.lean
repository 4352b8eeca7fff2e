import SearchSql.Proofs.Layout.Writing
import SearchSql.Proofs.Params.Numbering

/-!
# The numbers of a layout

Writing a layout generates a name for each value that is bound. When no parameter with a
name of its own has a numbered one, the numbers grow from left to right and each name stays
bound to its value.

## Main definitions

* `Layout.binds`, `Layout.merges` — the values and the parameters with their own names.
* `Layout.numbers` — the numbers of the names that are generated.

## Main statements

* `Layout.pairwise_numbers` — the numbers grow.
* `Layout.map_named?_numbers` — what is bound under the generated names at the end.
* `Layout.mem_names_paramsAfter`, `Layout.mem_entries_paramsAfter` — where names and values come
  from.
-/
namespace SearchSql

/-- The value that is bound at a piece. -/
def Piece.bind? : Piece → Option Value
  | .bind v => some v
  | _ => none

/-- The parameters that a piece binds under their own names. -/
def Piece.merge? : Piece → Option Mapping
  | .merge params => some params
  | _ => none

namespace Layout

variable (stem : String)

open Params

/-- The values that are bound, in order. -/
def binds (l : Layout) : List Value := l.filterMap Piece.bind?

/-- The parameters that are bound under their own names, in order. -/
def merges (l : Layout) : List Mapping := l.filterMap Piece.merge?

@[simp] theorem binds_naming (names : List Value) : (naming names).binds = [] := by
  rcases naming_eq_nil_or names with h | h <;> rw [h] <;> rfl

@[simp] theorem merges_naming (names : List Value) : (naming names).merges = [] := by
  rcases naming_eq_nil_or names with h | h <;> rw [h] <;> rfl

@[simp] theorem binds_append (l r : Layout) : (l ++ r).binds = l.binds ++ r.binds :=
  List.filterMap_append

@[simp] theorem merges_append (l r : Layout) : (l ++ r).merges = l.merges ++ r.merges :=
  List.filterMap_append

/-- The numbers of the names that are generated, in order. -/
def numbers : Layout → Params → List Nat
  | [], _ => []
  | .bind v :: rest, p => p.size :: numbers rest (p.bind stem v)
  | piece :: rest, p => numbers rest (p.after stem piece)

/-- No parameter with a name of its own has a numbered one. -/
def Unnumbered (l : Layout) : Prop :=
  ∀ params ∈ l.merges, ∀ n, .text (numbered stem n) ∉ params.keys

variable {stem}

theorem Unnumbered.tail {piece : Piece} {l : Layout} (h : Unnumbered stem (piece :: l)) :
    l.Unnumbered stem := by
  intro params hparams
  exact h params (((List.sublist_cons_self piece l).filterMap Piece.merge?).subset hparams)

theorem Unnumbered.left {l r : Layout} (h : Unnumbered stem (l ++ r)) :
    l.Unnumbered stem := by
  intro params hparams
  refine h params ?_
  rw [merges_append]
  exact List.mem_append_left _ hparams

theorem Unnumbered.head {params : Mapping} {l : Layout}
    (h : Unnumbered stem (.merge params :: l)) (n : Nat) :
    .text (numbered stem n) ∉ params.keys :=
  h params (by simp [merges, Piece.merge?]) n

/-- A piece keeps the numbering. -/
theorem wellNumbered_after {piece : Piece} {l : Layout} (hl : Unnumbered stem (piece :: l))
    {p : Params} (hp : p.WellNumbered stem) : (p.after stem piece).WellNumbered stem := by
  cases piece with
  | bind v => exact hp.bind v
  | merge params => exact hp.merge fun n hn => absurd hn (hl.head n)
  | text | indexes | fault => exact hp

/-- A run keeps the numbering. -/
theorem wellNumbered_paramsAfter {l : Layout} (hl : l.Unnumbered stem)
    {p : Params} (hp : p.WellNumbered stem) : (l.paramsAfter stem p).WellNumbered stem := by
  induction l generalizing p with
  | nil => exact hp
  | cons piece l ih => exact ih hl.tail (wellNumbered_after hl hp)

theorem size_le_size_after (stem : String) (p : Params) (piece : Piece) :
    p.size ≤ (p.after stem piece).size := by
  cases piece with
  | bind v => exact Mapping.length_le_length_insert ..
  | merge params => exact p.size_le_size_merge params
  | text | indexes | fault => exact Nat.le_refl _

/-- Numbers never fall below the number of parameters at the start. -/
theorem size_le_of_mem_numbers {l : Layout} {p : Params} {n : Nat} (h : n ∈ l.numbers stem p) :
    p.size ≤ n := by
  induction l generalizing p with
  | nil => simp [numbers] at h
  | cons piece l ih =>
    have hsize := size_le_size_after stem p piece
    cases piece with
    | bind v =>
      rcases List.mem_cons.1 h with rfl | h
      · exact Nat.le_refl _
      · exact Nat.le_trans hsize (ih h)
    | text | merge | indexes | fault => exact Nat.le_trans hsize (ih h)

/-- The numbers of generated names grow as long as the numbers in use stay below the number of
parameters. -/
theorem pairwise_numbers_of_wellNumbered {l : Layout} {p : Params}
    (h : ∀ front behind : Layout, l = front ++ behind →
      (front.paramsAfter stem p).WellNumbered stem) : (l.numbers stem p).Pairwise (· < ·) := by
  induction l generalizing p with
  | nil => exact List.Pairwise.nil
  | cons piece l ih =>
    have hp : p.WellNumbered stem := h [] _ rfl
    have hrest := ih fun front behind heq => h (piece :: front) behind (congrArg _ heq)
    cases piece with
    | bind v =>
      refine List.Pairwise.cons (fun n hn => ?_) hrest
      have hle := size_le_of_mem_numbers hn
      rw [hp.size_bind v] at hle
      omega
    | text | merge | indexes | fault => exact hrest

/-- **The numbers of generated names grow from left to right.** -/
theorem pairwise_numbers {l : Layout} (hl : l.Unnumbered stem) {p : Params}
    (hp : p.WellNumbered stem) : (l.numbers stem p).Pairwise (· < ·) := by
  refine pairwise_numbers_of_wellNumbered ?_
  rintro front behind rfl
  exact wellNumbered_paramsAfter hl.left hp

/-- What is bound under a number in use stays. -/
theorem named?_paramsAfter {l : Layout} (hl : l.Unnumbered stem) {p : Params} {n : Nat}
    (hn : n < p.size) :
    (l.paramsAfter stem p).entries.named? (numbered stem n) =
      p.entries.named? (numbered stem n) := by
  induction l generalizing p with
  | nil => rfl
  | cons piece l ih =>
    have hsize := size_le_size_after stem p piece
    rw [paramsAfter_cons, ih hl.tail (Nat.lt_of_lt_of_le hn hsize)]
    cases piece with
    | bind v => exact named?_bind_numbered v hn
    | merge params => exact Mapping.named?_merge_of_notMem (hl.head n) _
    | text | indexes | fault => rfl

/-- **Every generated name is bound to its value at the end.** -/
theorem map_named?_numbers {l : Layout} (hl : l.Unnumbered stem) {p : Params}
    (hp : p.WellNumbered stem) :
    (l.numbers stem p).map
        (fun n => (l.paramsAfter stem p).entries.named? (numbered stem n)) =
      l.binds.map some := by
  induction l generalizing p with
  | nil => rfl
  | cons piece l ih =>
    have hrest := ih hl.tail (wellNumbered_after hl hp)
    cases piece with
    | bind v =>
      have hlt : p.size < (p.bind stem v).size := by
        rw [hp.size_bind v]
        omega
      have hself := named?_paramsAfter hl.tail hlt
      rw [← nextName_eq, named?_bind_nextName] at hself
      exact congrArg₂ List.cons hself hrest
    | text | merge | indexes | fault => exact hrest

theorem isSome_named?_numbers {l : Layout} (hl : l.Unnumbered stem) {p : Params}
    (hp : p.WellNumbered stem) {n : Nat} (hn : n ∈ l.numbers stem p) :
    ((l.paramsAfter stem p).entries.named? (numbered stem n)).isSome = true := by
  have hmem := List.mem_map_of_mem (f := fun n =>
    (l.paramsAfter stem p).entries.named? (numbered stem n)) hn
  rw [map_named?_numbers hl hp] at hmem
  obtain ⟨v, -, hv⟩ := List.mem_map.1 hmem
  rw [← hv]
  rfl

/-- Where the names come from: they were there, came with parameters that had names, or were
generated. -/
theorem mem_names_paramsAfter {l : Layout} {p : Params} {key : Value}
    (h : key ∈ (l.paramsAfter stem p).names) :
    key ∈ p.names ∨ (∃ params ∈ l.merges, key ∈ params.keys) ∨
      ∃ n ∈ l.numbers stem p, key = .text (numbered stem n) := by
  induction l generalizing p with
  | nil => exact Or.inl h
  | cons piece l ih =>
    rcases ih h with hstart | ⟨params, hparams, hkey⟩ | ⟨n, hn, hkey⟩
    · cases piece with
      | bind v =>
        rcases Mapping.mem_keys_insert hstart with hkey | hkey
        · exact Or.inr (Or.inr ⟨p.size, by simp [numbers], hkey⟩)
        · exact Or.inl hkey
      | merge params =>
        rcases Mapping.mem_keys_merge hstart with hkey | hkey
        · exact Or.inl hkey
        · exact Or.inr (Or.inl ⟨params, by simp [merges, Piece.merge?], hkey⟩)
      | text | indexes | fault => exact Or.inl hstart
    · refine Or.inr (Or.inl ⟨params, ?_, hkey⟩)
      cases piece with
      | merge others => exact List.mem_cons_of_mem _ hparams
      | text | bind | indexes | fault => exact hparams
    · refine Or.inr (Or.inr ⟨n, ?_, hkey⟩)
      cases piece with
      | bind v => exact List.mem_cons_of_mem _ hn
      | text | merge | indexes | fault => exact hn

/-- Where the values come from: they were there under their keys, are bound, or came with parameters
that had names. -/
theorem mem_entries_paramsAfter {pair : Value × Value} {l : Layout} {p : Params}
    (h : pair ∈ (l.paramsAfter stem p).entries) :
    pair ∈ p.entries ∨ pair.2 ∈ l.binds ∨ ∃ given ∈ l.merges, pair.2 ∈ given.map Prod.snd := by
  induction l generalizing p with
  | nil => exact Or.inl h
  | cons piece l ih =>
    rw [paramsAfter_cons] at h
    have hrest := ih h
    cases piece with
    | bind v =>
      rcases hrest with hmem | hmem | ⟨given, hgiven, hmem⟩
      · rcases Mapping.mem_insert hmem with heq | hmem
        · exact Or.inr (Or.inl (heq ▸ List.mem_cons_self))
        · exact Or.inl hmem
      · exact Or.inr (Or.inl (List.mem_cons_of_mem _ hmem))
      · exact Or.inr (Or.inr ⟨given, hgiven, hmem⟩)
    | merge params =>
      rcases hrest with hmem | hmem | ⟨given, hgiven, hmem⟩
      · rcases Mapping.mem_merge hmem with hmem | hmem
        · exact Or.inr (Or.inr ⟨params, List.mem_cons_self, hmem⟩)
        · exact Or.inl hmem
      · exact Or.inr (Or.inl hmem)
      · exact Or.inr (Or.inr ⟨given, List.mem_cons_of_mem _ hgiven, hmem⟩)
    | text | indexes | fault => exact hrest

/-- What is bound is bound to a generated name at the end. -/
theorem exists_named?_of_mem_binds {l : Layout} (hl : l.Unnumbered stem) {p : Params}
    (hp : p.WellNumbered stem) {v : Value} (hv : v ∈ l.binds) :
    ∃ n, (l.paramsAfter stem p).entries.named? (numbered stem n) = some v := by
  have hmem := List.mem_map_of_mem (f := some) hv
  rw [← map_named?_numbers hl hp] at hmem
  obtain ⟨n, -, hn⟩ := List.mem_map.1 hmem
  exact ⟨n, hn⟩

end Layout

end SearchSql

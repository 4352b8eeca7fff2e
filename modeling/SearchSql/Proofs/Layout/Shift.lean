import SearchSql.Proofs.Layout.Numbers

/-!
# Writing behind other parameters

A layout can be written by itself, or behind parameters that are bound before it. Both runs
take the same steps: the second one keeps what is bound before it and adds what the first
one binds, with the numbers of generated names raised by how many parameters there were. This
needs names of its own for what the layout brings along, neither numbered nor in use.

## Main definitions

* `Params.Raised` — a parameter, and the one that stands for it behind others.
* `Params.Continues` — the parameters of a run, and those of the run behind others.
* `Layout.NewTo` — a layout brings along no name that is in use.

## Main statements

* `Layout.continues_after`, `Layout.continues_paramsAfter` — what a step and a run keep.
* `Layout.numbers_continues` — the numbers of the second run.
* `Params.Continues.named?_raised` — what is bound under them.
-/
namespace SearchSql

/-! ## Parameters at the end of a mapping -/

namespace Mapping

/-- A key that a mapping does not have is put behind it. -/
theorem insert_append {m : Mapping} {key : Value} (h : ∀ k ∈ m.keys, k.sameKey key = false)
    (v : Value) (rest : Mapping) :
    insert key v (m ++ rest : Mapping) = m ++ insert key v rest := by
  induction m with
  | nil => rfl
  | cons pair m ih =>
    obtain ⟨k, w⟩ := pair
    have hk : k.sameKey key = false := h k (mem_keys_cons.2 (Or.inl rfl))
    have hm : ∀ k ∈ keys m, k.sameKey key = false := fun k' hk' =>
      h k' (mem_keys_cons.2 (Or.inr hk'))
    simp only [List.cons_append, insert, hk, Bool.false_eq_true, if_false]
    rw [ih hm]

theorem named?_append_of_notMem {m : Mapping} {name : String} (h : .text name ∉ m.keys)
    (rest : Mapping) : named? name (m ++ rest : Mapping) = rest.named? name := by
  induction m with
  | nil => rfl
  | cons pair m ih =>
    obtain ⟨k, v⟩ := pair
    rw [mem_keys_cons, not_or] at h
    have hk : k ≠ .text name := Ne.symm h.1
    simpa [named?, get?, hk] using ih h.2

end Mapping

namespace Params

variable (stem : String)

/-! ## Raised parameters -/

/-- A parameter, and the one that stands for it behind a number of others: a numbered name
has its number raised, any other one is kept. -/
inductive Raised (n : Nat) : Value × Value → Value × Value → Prop where
  | own {key : Value} (v : Value) (h : ∀ i, key ≠ .text (numbered stem i)) :
    Raised n (key, v) (key, v)
  | numbered (i : Nat) (v : Value) :
    Raised n (.text (numbered stem i), v) (.text (numbered stem (i + n)), v)

/-- The second parameters are those of a run behind `p`, where the first ones are those of the
run by itself. -/
def Continues (p a b : Params) : Prop :=
  ∃ rest, b.entries = p.entries ++ rest ∧ List.Forall₂ (Raised stem p.size) a.entries rest

variable {stem} {n : Nat}

/-- Putting in a name that is not numbered. -/
theorem forall₂_raised_insert {m m' : Mapping} (h : List.Forall₂ (Raised stem n) m m')
    {key : Value} (hkey : ∀ i, key ≠ .text (numbered stem i)) (v : Value) :
    List.Forall₂ (Raised stem n) (m.insert key v) (m'.insert key v) := by
  induction h with
  | nil => exact .cons (.own v hkey) .nil
  | @cons _ _ m m' hpair hrest ih =>
    cases hpair with
    | @own k u hk =>
      by_cases hsame : k.sameKey key = true
      · simpa [Mapping.insert, hsame] using ⟨.own v hk, hrest⟩
      · simpa [Mapping.insert, hsame] using ⟨.own u hk, ih⟩
    | numbered i u =>
      have hsame : (Value.text (numbered stem i)).sameKey key = false := by
        rw [Bool.eq_false_iff, Ne, Value.text_sameKey_iff]
        exact hkey i
      have hsame' : (Value.text (numbered stem (i + n))).sameKey key = false := by
        rw [Bool.eq_false_iff, Ne, Value.text_sameKey_iff]
        exact hkey (i + n)
      simpa [Mapping.insert, hsame, hsame'] using ⟨.numbered i u, ih⟩

/-- Putting in a numbered name, and the raised one. -/
theorem forall₂_raised_insert_numbered {m m' : Mapping}
    (h : List.Forall₂ (Raised stem n) m m') (i : Nat) (v : Value) :
    List.Forall₂ (Raised stem n) (m.insert (.text (numbered stem i)) v)
      (m'.insert (.text (numbered stem (i + n))) v) := by
  induction h with
  | nil => exact .cons (.numbered i v) .nil
  | @cons _ _ m m' hpair hrest ih =>
    cases hpair with
    | @own k u hk =>
      simpa [Mapping.insert, hk i, hk (i + n)] using ⟨.own u hk, ih⟩
    | numbered j u =>
      by_cases hji : j = i
      · subst hji
        simpa [Mapping.insert] using ⟨.numbered j v, hrest⟩
      · have hname := (numbered_injective stem).ne hji
        have hname' := (numbered_injective stem).ne (mt Nat.add_right_cancel hji : j + n ≠ i + n)
        simpa [Mapping.insert, hname, hname'] using ⟨.numbered j u, ih⟩

theorem named?_of_forall₂_raised {m m' : Mapping} (h : List.Forall₂ (Raised stem n) m m')
    (i : Nat) : m'.named? (numbered stem (i + n)) = m.named? (numbered stem i) := by
  induction h with
  | nil => rfl
  | @cons _ _ m m' hpair _ ih =>
    cases hpair with
    | @own k u hk => simpa [Mapping.named?, Mapping.get?, hk i, hk (i + n)] using ih
    | numbered j u =>
      by_cases hji : j = i
      · subst hji
        simp [Mapping.named?, Mapping.get?]
      · have hname := (numbered_injective stem).ne hji
        have hname' := (numbered_injective stem).ne (mt Nat.add_right_cancel hji : j + n ≠ i + n)
        simpa [Mapping.named?, Mapping.get?, hname, hname'] using ih

/-! ## A run behind others -/

namespace Continues

variable {p a b : Params}

/-- Nothing has been written yet. -/
theorem start (stem : String) (p : Params) : Continues stem p .empty p :=
  ⟨[], (List.append_nil _).symm, .nil⟩

theorem size_eq (h : Continues stem p a b) : b.size = a.size + p.size := by
  obtain ⟨rest, hb, hraised⟩ := h
  rw [size, hb, List.length_append, ← hraised.length_eq, Nat.add_comm]
  rfl

/-- The second run generates the raised name. -/
theorem bind (h : Continues stem p a b) (hp : p.WellNumbered stem) (v : Value) :
    Continues stem p (a.bind stem v) (b.bind stem v) := by
  have hsize := h.size_eq
  obtain ⟨rest, hb, hraised⟩ := h
  have hnew : ∀ k ∈ p.entries.keys, k.sameKey (.text (b.nextName stem)) = false := by
    intro k hk
    rw [Bool.eq_false_iff, Ne, Value.sameKey_text_iff, nextName_eq]
    rintro rfl
    have hlt := hp _ hk
    omega
  refine ⟨rest.insert (.text (b.nextName stem)) v, ?_, ?_⟩
  · rw [Params.bind, hb, Mapping.insert_append hnew]
  · rw [nextName_eq, hsize]
    exact forall₂_raised_insert_numbered hraised a.size v

/-- Names that are neither numbered nor in use are put in the same places. -/
theorem merge {params : Mapping} (h : Continues stem p a b)
    (hown : ∀ i, .text (numbered stem i) ∉ params.keys)
    (hnew : ∀ key ∈ params.keys, ∀ k ∈ p.names, k.sameKey key = false) :
    Continues stem p (a.merge params) (b.merge params) := by
  induction params generalizing a b with
  | nil => exact h
  | cons pair params ih =>
    obtain ⟨key, v⟩ := pair
    obtain ⟨rest, hb, hraised⟩ := h
    have hkey : key ∈ Mapping.keys ((key, v) :: params) := Mapping.mem_keys_cons.2 (Or.inl rfl)
    have htail : ∀ k ∈ Mapping.keys params, k ∈ Mapping.keys ((key, v) :: params) := fun k hk =>
      Mapping.mem_keys_cons.2 (Or.inr hk)
    have hinserted : Continues stem p ⟨a.entries.insert key v⟩ ⟨b.entries.insert key v⟩ := by
      refine ⟨rest.insert key v, ?_, forall₂_raised_insert hraised ?_ v⟩
      · rw [hb, Mapping.insert_append (hnew key hkey)]
      · rintro i rfl
        exact hown i hkey
    exact ih hinserted (fun i hi => hown i (htail _ hi)) fun k hk => hnew k (htail k hk)

/-- **What is bound under a raised number is what is bound under the number.** -/
theorem named?_raised (h : Continues stem p a b) (hp : p.WellNumbered stem) (i : Nat) :
    b.entries.named? (numbered stem (i + p.size)) = a.entries.named? (numbered stem i) := by
  obtain ⟨rest, hb, hraised⟩ := h
  have hnot : .text (numbered stem (i + p.size)) ∉ p.entries.keys := by
    intro hmem
    have hlt := hp _ hmem
    omega
  rw [hb, Mapping.named?_append_of_notMem hnot, named?_of_forall₂_raised hraised]

end Continues

end Params

namespace Layout

open Params

variable {stem : String} {p a b : Params}

theorem Unnumbered.of_isInfix {l whole : Layout} (h : whole.Unnumbered stem) (hl : l <:+: whole) :
    l.Unnumbered stem :=
  fun params hparams => h params ((hl.filterMap Piece.merge?).subset hparams)

/-- A layout brings along no name that is in use. -/
def NewTo (p : Params) (l : Layout) : Prop :=
  ∀ params ∈ l.merges, ∀ key ∈ params.keys, ∀ k ∈ p.names, k.sameKey key = false

theorem NewTo.tail {piece : Piece} {l : Layout} (h : NewTo p (piece :: l)) : l.NewTo p :=
  fun params hparams =>
    h params (((List.sublist_cons_self piece l).filterMap Piece.merge?).subset hparams)

/-- A step of both runs. -/
theorem continues_after {piece : Piece} {l : Layout} (hl : Unnumbered stem (piece :: l))
    (hnew : NewTo p (piece :: l)) (hp : p.WellNumbered stem) (h : Continues stem p a b) :
    Continues stem p (a.after stem piece) (b.after stem piece) := by
  cases piece with
  | bind v => exact h.bind hp v
  | merge params => exact h.merge hl.head (hnew params (by simp [merges, Piece.merge?]))
  | text | indexes | fault => exact h

/-- **Both runs take the same steps.** -/
theorem continues_paramsAfter {l : Layout} (hl : l.Unnumbered stem) (hnew : l.NewTo p)
    (hp : p.WellNumbered stem) (h : Continues stem p a b) :
    Continues stem p (l.paramsAfter stem a) (l.paramsAfter stem b) := by
  induction l generalizing a b with
  | nil => exact h
  | cons piece l ih => exact ih hl.tail hnew.tail (continues_after hl hnew hp h)

/-- **The numbers are raised.** -/
theorem numbers_continues {l : Layout} (hl : l.Unnumbered stem) (hnew : l.NewTo p)
    (hp : p.WellNumbered stem) (h : Continues stem p a b) :
    l.numbers stem b = (l.numbers stem a).map (· + p.size) := by
  induction l generalizing a b with
  | nil => rfl
  | cons piece l ih =>
    have hrest := ih hl.tail hnew.tail (continues_after hl hnew hp h)
    cases piece with
    | bind v => exact congrArg₂ List.cons h.size_eq hrest
    | text | merge | indexes | fault => exact hrest

end Layout

end SearchSql

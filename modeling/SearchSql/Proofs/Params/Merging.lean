import SearchSql.Proofs.Layout.History
import SearchSql.Proofs.Number.Equality

/-!
# Parameters that are put together

A mapping that takes in another one has at least as many parameters as either: a key that is
there already makes room for one key of the other mapping only, since keys that are the same as
one key are the same. So mappings whose numbers are below their sizes stay so when they are put
together.

## Main definitions

* `Mapping.Covers` — each key of a mapping has a place of its own in another one.
* `Mapping.IsDict` — no key of a mapping is the same as an earlier one.

## Main statements

* `Mapping.covers_merge` — what is taken in is covered.
* `Params.WellNumbered.merge_of_wellNumbered` — numbered parameters that are put together.
-/
namespace SearchSql

namespace Mapping

theorem isSome_get?_iff {key : Value} {m : Mapping} :
    (m.get? key).isSome = true ↔ ∃ k ∈ m.keys, k.sameKey key = true := by
  induction m with
  | nil => simp [get?, keys]
  | cons pair rest ih =>
    obtain ⟨k, v⟩ := pair
    by_cases hk : k.sameKey key = true
    · simp [get?, keys, hk]
    · simpa [get?, keys, hk] using ih

/-- A new key is put at the end. -/
theorem keys_insert (key v : Value) (m : Mapping) :
    (m.insert key v).keys = if (m.get? key).isSome then m.keys else m.keys ++ [key] := by
  induction m with
  | nil => simp [insert, get?, keys]
  | cons pair rest ih =>
    obtain ⟨k, w⟩ := pair
    by_cases hk : k.sameKey key = true
    · simp [insert, get?, keys, hk]
    · simp only [keys] at ih
      simp only [insert, get?, hk, Bool.false_eq_true, if_false, keys, List.map_cons, ih]
      split <;> rfl

/-- A key takes the place of another one. -/
def Stands (k key : Value) : Prop := k = key ∨ k.sameKey key = true

/-- Each key of the second mapping has a place of its own in the first one. -/
def Covers (m params : Mapping) : Prop :=
  ∃ seats : List (Value × Value), seats.map Prod.snd = params.keys ∧
    (seats.map Prod.fst).Subperm m.keys ∧ ∀ seat ∈ seats, Stands seat.1 seat.2

theorem covers_nil (m : Mapping) : Covers m [] :=
  ⟨[], rfl, List.nil_subperm, by simp⟩

theorem Covers.length_le {m params : Mapping} (h : Covers m params) :
    params.length ≤ m.length := by
  obtain ⟨seats, hkeys, hplaces, -⟩ := h
  have hle := hplaces.length_le
  rwa [List.length_map, ← List.length_map (f := Prod.snd), hkeys, length_keys, length_keys] at hle

/-- Keys keep their places. -/
theorem keys_subperm_insert (m : Mapping) (key v : Value) :
    m.keys.Subperm (m.insert key v).keys := by
  rw [keys_insert]
  split
  · exact List.Subperm.refl _
  · exact (List.sublist_append_left ..).subperm

/-- One key more is covered: if it is new to the second mapping, then its place in the first
one is taken by no other key. -/
theorem Covers.insert {m params : Mapping} (h : Covers m params) (key v w : Value) :
    Covers (m.insert key v) (params.insert key w) := by
  obtain ⟨seats, hkeys, hplaces, hstand⟩ := h
  by_cases hold : (params.get? key).isSome = true
  · refine ⟨seats, ?_, hplaces.trans (keys_subperm_insert m key v), hstand⟩
    rw [keys_insert, if_pos hold, hkeys]
  -- the key is new, and needs a seat
  obtain ⟨place, hstands, hseated⟩ : ∃ place, Stands place key ∧
      (place :: seats.map Prod.fst).Subperm (m.insert key v).keys := by
    rw [keys_insert]
    by_cases hthere : (m.get? key).isSome = true
    · obtain ⟨place, hplace, hsame⟩ := isSome_get?_iff.1 hthere
      refine ⟨place, Or.inr hsame, ?_⟩
      rw [if_pos hthere]
      refine List.cons_subperm_of_not_mem_of_mem ?_ hplace hplaces
      intro hmem
      obtain ⟨seat, hseat, rfl⟩ := List.mem_map.1 hmem
      refine hold (isSome_get?_iff.2 ⟨seat.2, hkeys ▸ List.mem_map_of_mem hseat, ?_⟩)
      rcases hstand seat hseat with heq | htaken
      · rwa [← heq]
      · exact Value.sameKey_euclidean htaken hsame
    · refine ⟨key, Or.inl rfl, ?_⟩
      rw [if_neg hthere]
      exact ((List.subperm_cons key).2 hplaces).trans (List.perm_append_singleton ..).symm.subperm
  refine ⟨seats ++ [(place, key)], ?_, ?_, ?_⟩
  · rw [keys_insert, if_neg hold, List.map_append, hkeys]
    rfl
  · rw [List.map_append]
    exact (List.perm_append_singleton ..).subperm.trans hseated
  · intro seat hseat
    rcases List.mem_append.1 hseat with hseat | hseat
    · exact hstand seat hseat
    · obtain rfl := List.mem_singleton.1 hseat
      exact hstands

theorem Covers.merge {m params : Mapping} (h : Covers m params) (others : Mapping) :
    Covers (m.merge others) (params.merge others) := by
  induction others generalizing m params with
  | nil => exact h
  | cons pair rest ih => exact ih (h.insert pair.1 pair.2 pair.2)

/-- **What is taken in is covered**, so no fewer parameters are bound than it has. -/
theorem length_ofPairs_le_length_merge (m params : Mapping) :
    (ofPairs params).length ≤ (m.merge params).length :=
  ((covers_nil m).merge params).length_le

theorem text_mem_keys_ofPairs_iff {name : String} {params : Mapping} :
    .text name ∈ (ofPairs params).keys ↔ .text name ∈ params.keys := by
  rw [ofPairs, text_mem_keys_merge_iff, or_iff_left (by simp [keys])]

/-! ## Mappings without repeated keys -/

/-- No key is the same as an earlier one. -/
def IsDict (m : Mapping) : Prop := m.keys.Pairwise fun k k' => k.sameKey k' = false

theorem isDict_nil : IsDict [] := List.Pairwise.nil

theorem IsDict.insert {m : Mapping} (h : m.IsDict) (key v : Value) : (m.insert key v).IsDict := by
  rw [IsDict, keys_insert]
  split
  · exact h
  · rename_i hnew
    refine List.pairwise_append.2 ⟨h, List.pairwise_singleton .., ?_⟩
    intro k hk key' hkey'
    obtain rfl := List.mem_singleton.1 hkey'
    exact Bool.eq_false_iff.2 fun hsame => hnew (isSome_get?_iff.2 ⟨k, hk, hsame⟩)

theorem IsDict.merge {m : Mapping} (h : m.IsDict) (params : Mapping) :
    (m.merge params).IsDict := by
  induction params generalizing m with
  | nil => exact h
  | cons pair rest ih => exact ih (h.insert pair.1 pair.2)

theorem insert_of_get?_eq_none {key : Value} {m : Mapping} (h : m.get? key = none) (v : Value) :
    m.insert key v = m ++ [(key, v)] := by
  induction m with
  | nil => rfl
  | cons pair rest ih =>
    obtain ⟨k, w⟩ := pair
    by_cases hk : k.sameKey key = true
    · simp [get?, hk] at h
    · simp only [get?, hk, Bool.false_eq_true, if_false] at h
      simp [insert, hk, ih h]

theorem merge_eq_append {m params : Mapping} (h : IsDict (m ++ params)) :
    m.merge params = m ++ params := by
  induction params generalizing m with
  | nil => simp
  | cons pair rest ih =>
    obtain ⟨key, v⟩ := pair
    have hnone : m.get? key = none := by
      rw [← Option.not_isSome_iff_eq_none, isSome_get?_iff]
      rintro ⟨k, hk, hsame⟩
      rw [IsDict, keys, List.map_append] at h
      have hnot := (List.pairwise_append.1 h).2.2 k hk key (by simp)
      exact Bool.false_ne_true (hnot.symm.trans hsame)
    rw [merge, insert_of_get?_eq_none hnone, ih (by rwa [List.append_assoc]), List.append_assoc]
    rfl

/-- Pairs under different keys stay as they are. -/
theorem ofPairs_of_isDict {m : Mapping} (h : m.IsDict) : ofPairs m = m :=
  merge_eq_append (m := []) h

end Mapping

namespace Params.WellNumbered

variable {stem : String}

/-- Parameters whose numbers are below their number may be put in. -/
theorem merge_of_wellNumbered {p : Params} (h : p.WellNumbered stem) {params : Mapping}
    (hparams : Params.WellNumbered stem ⟨Mapping.ofPairs params⟩) :
    (p.merge params).WellNumbered stem := by
  refine h.merge fun n hn => ?_
  have hlt := hparams n (Mapping.text_mem_keys_ofPairs_iff.2 hn)
  exact Nat.lt_of_lt_of_le hlt (Mapping.length_ofPairs_le_length_merge p.entries params)

end Params.WellNumbered

end SearchSql

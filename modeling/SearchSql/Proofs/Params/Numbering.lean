import SearchSql.Proofs.Params.Names

/-!
# Numbered parameters

Generated names are numbered by the number of the parameters that are bound before them. As
long as every number in use is below that number, the next name is a new one; a binding keeps
this, and so do parameters whose own names are not numbered.

## Main definitions

* `Params.numbered` — the name with a number.
* `Params.WellNumbered` — every number in use is below the number of parameters.

## Main statements

* `Params.WellNumbered.nextName_notMem` — the next name is a new one.
* `Params.WellNumbered.bind`, `Params.WellNumbered.merge` — what a step keeps.
-/
namespace SearchSql

@[simp] theorem Value.text_sameKey_iff {k : Value} {s : String} :
    (Value.text s).sameKey k = true ↔ k = .text s := by
  cases k with
  | text t =>
    rw [sameKey, beq_iff_eq, Value.text.injEq]
    exact eq_comm
  | _ => simp [sameKey, number?]

namespace Mapping

/-! ## Pairs and keys -/

theorem mem_keys_cons {key : Value} {pair : Value × Value} {m : Mapping} :
    key ∈ keys (pair :: m) ↔ key = pair.1 ∨ key ∈ m.keys := by
  simp [keys]

/-- An insertion gives its value to one key and leaves the other pairs. -/
theorem mem_insert {pair : Value × Value} {k v : Value} {m : Mapping}
    (h : pair ∈ m.insert k v) : pair.2 = v ∨ pair ∈ m := by
  induction m with
  | nil =>
    obtain rfl := List.mem_singleton.1 h
    exact Or.inl rfl
  | cons first rest ih =>
    obtain ⟨key, w⟩ := first
    rw [insert] at h
    split at h
    · rcases List.mem_cons.1 h with rfl | hrest
      · exact Or.inl rfl
      · exact Or.inr (List.mem_cons_of_mem _ hrest)
    · rcases List.mem_cons.1 h with rfl | hrest
      · exact Or.inr List.mem_cons_self
      · exact (ih hrest).imp_right (List.mem_cons_of_mem _)

theorem mem_merge {pair : Value × Value} {m params : Mapping} (h : pair ∈ m.merge params) :
    pair.2 ∈ params.map Prod.snd ∨ pair ∈ m := by
  induction params generalizing m with
  | nil => exact Or.inr h
  | cons first rest ih =>
    obtain ⟨k, v⟩ := first
    rcases ih h with hmem | hmem
    · exact Or.inl (List.mem_cons_of_mem _ hmem)
    · refine (mem_insert hmem).imp_left fun heq => ?_
      rw [heq]
      exact List.mem_cons_self

theorem mem_keys_insert {key k v : Value} {m : Mapping} (h : key ∈ (m.insert k v).keys) :
    key = k ∨ key ∈ m.keys := by
  induction m with
  | nil => exact Or.inl (by simpa [insert, keys] using h)
  | cons pair rest ih =>
    obtain ⟨k', v'⟩ := pair
    rw [insert] at h
    split at h
    · exact Or.inr (by simpa [mem_keys_cons] using h)
    · rcases mem_keys_cons.1 h with hhead | hrest
      · exact Or.inr (mem_keys_cons.2 (Or.inl hhead))
      · exact (ih hrest).imp_right fun hmem => mem_keys_cons.2 (Or.inr hmem)

theorem mem_keys_merge {key : Value} {m params : Mapping} (h : key ∈ (m.merge params).keys) :
    key ∈ m.keys ∨ key ∈ params.keys := by
  induction params generalizing m with
  | nil => exact Or.inl h
  | cons pair rest ih =>
    obtain ⟨k, v⟩ := pair
    rcases ih h with h | h
    · rcases mem_keys_insert h with rfl | h
      · exact Or.inr (by simp [keys])
      · exact Or.inl h
    · exact Or.inr (List.mem_cons_of_mem _ h)

/-- A text is among the keys just when something is found under it. -/
theorem isSome_named?_iff {name : String} {m : Mapping} :
    (m.named? name).isSome = true ↔ .text name ∈ m.keys := by
  induction m with
  | nil => simp [named?, get?, keys]
  | cons pair rest ih =>
    obtain ⟨k, v⟩ := pair
    by_cases hk : k = .text name
    · simp [named?, get?, keys, hk]
    · have hne : ¬ Value.text name = k := fun h => hk h.symm
      simpa [named?, get?, keys, hk, hne] using ih

theorem named?_eq_none_iff {name : String} {m : Mapping} :
    m.named? name = none ↔ .text name ∉ m.keys := by
  rw [← isSome_named?_iff, Option.not_isSome_iff_eq_none]

/-! ## Lengths -/

theorem length_le_length_insert (k v : Value) (m : Mapping) :
    m.length ≤ (m.insert k v).length := by
  rw [length_insert]
  split <;> omega

theorem length_le_length_merge (m params : Mapping) : m.length ≤ (m.merge params).length := by
  induction params generalizing m with
  | nil => exact Nat.le_refl _
  | cons pair rest ih => exact Nat.le_trans (length_le_length_insert _ _ m) (ih _)

/-- A text that is not among the keys adds a pair. -/
theorem length_insert_of_notMem {name : String} {m : Mapping} (h : .text name ∉ m.keys)
    (v : Value) : (m.insert (.text name) v).length = m.length + 1 := by
  have hnone : m.get? (.text name) = none := named?_eq_none_iff.2 h
  rw [length_insert, hnone]
  rfl

/-! ## Values under other names -/

theorem named?_insert_of_key_ne {k : Value} {name : String} (h : k ≠ .text name) (v : Value)
    (m : Mapping) : (m.insert k v).named? name = m.named? name := by
  induction m with
  | nil => simp [named?, insert, get?, h]
  | cons pair rest ih =>
    obtain ⟨k', w⟩ := pair
    rw [insert]
    split
    · -- the key that is there is not the text either, since it is the same as the new one
      have hk' : k' ≠ .text name := by
        rintro rfl
        exact h (Value.text_sameKey_iff.1 (by assumption))
      simp [named?, get?, hk']
    · simp only [named?, get?] at ih ⊢
      rw [ih]

theorem named?_merge_of_notMem {name : String} {params : Mapping} (h : .text name ∉ params.keys)
    (m : Mapping) : (m.merge params).named? name = m.named? name := by
  induction params generalizing m with
  | nil => rfl
  | cons pair rest ih =>
    obtain ⟨k, v⟩ := pair
    simp only [keys, List.map_cons, List.mem_cons, not_or] at h ih
    rw [merge, ih h.2, named?_insert_of_key_ne (Ne.symm h.1)]

end Mapping

namespace Params

variable (stem : String)

/-- The name with a number. -/
def numbered (n : Nat) : String := stem ++ toString n

theorem numbered_injective : Function.Injective (numbered stem) := by
  intro m n h
  have hchars : stem.toList ++ (toString m).toList = stem.toList ++ (toString n).toList := by
    simpa [numbered] using congrArg String.toList h
  have hdigits := String.toList_inj.1 (List.append_cancel_left hchars)
  exact Nat.repr_injective hdigits

theorem nextName_eq (p : Params) : p.nextName stem = numbered stem p.size := rfl

/-- Every number in use is below the number of parameters. -/
def WellNumbered (p : Params) : Prop := ∀ n, .text (numbered stem n) ∈ p.names → n < p.size

@[simp] theorem wellNumbered_empty : WellNumbered stem .empty := by
  intro n h
  simp [names, empty, Mapping.keys] at h

theorem size_le_size_merge (p : Params) (params : Mapping) : p.size ≤ (p.merge params).size :=
  Mapping.length_le_length_merge ..

theorem named?_bind_nextName (p : Params) (v : Value) :
    (p.bind stem v).entries.named? (p.nextName stem) = some v :=
  Mapping.named?_insert_self ..

variable {stem}

/-- A binding leaves what is bound under numbers. -/
theorem named?_bind_numbered {p : Params} (v : Value) {n : Nat} (hn : n < p.size) :
    (p.bind stem v).entries.named? (numbered stem n) = p.entries.named? (numbered stem n) := by
  refine Mapping.named?_insert_of_ne ?_ v p.entries
  intro heq
  have hnumber : p.size = n := numbered_injective stem heq
  omega

namespace WellNumbered

/-- The next name is a new one. -/
theorem nextName_notMem {p : Params} (h : p.WellNumbered stem) :
    .text (p.nextName stem) ∉ p.names := by
  intro hmem
  have hlt := h p.size hmem
  omega

theorem size_bind {p : Params} (h : p.WellNumbered stem) (v : Value) :
    (p.bind stem v).size = p.size + 1 :=
  Mapping.length_insert_of_notMem h.nextName_notMem v

/-- A binding takes the next number and adds one parameter. -/
theorem bind {p : Params} (h : p.WellNumbered stem) (v : Value) :
    (p.bind stem v).WellNumbered stem := by
  intro n hn
  rw [h.size_bind v]
  rcases Mapping.mem_keys_insert hn with heq | hmem
  · have hnumber : n = p.size := numbered_injective stem (by simpa [nextName_eq] using heq)
    omega
  · have hlt := h n hmem
    omega

/-- Parameters with other names add to the number of parameters at most. -/
theorem merge {p : Params} (h : p.WellNumbered stem) {params : Mapping}
    (hparams : ∀ n, .text (numbered stem n) ∈ params.keys → n < (p.merge params).size) :
    (p.merge params).WellNumbered stem := by
  intro n hn
  rcases Mapping.mem_keys_merge hn with hmem | hmem
  · exact Nat.lt_of_lt_of_le (h n hmem) (p.size_le_size_merge params)
  · exact hparams n hmem

end WellNumbered

end Params

end SearchSql

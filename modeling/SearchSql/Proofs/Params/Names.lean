import SearchSql.Proofs.Layout.Writing

/-!
# The names of parameters

Which names are bound, and in which order, depends on the names that are put in and never
on the values under them. The next generated name is made of their number.

## Main definitions

* `Mapping.keys`, `Params.names` — the names in the order in which they were first bound.
-/
namespace SearchSql

namespace Mapping

/-- The keys of a mapping in order. -/
def keys (m : Mapping) : List Value := m.map Prod.fst

@[simp] theorem length_keys (m : Mapping) : m.keys.length = m.length := List.length_map ..

/-- Where a key is put depends on the keys that are there. -/
theorem keys_insert_congr {m m' : Mapping} (h : m.keys = m'.keys) (key v w : Value) :
    (m.insert key v).keys = (m'.insert key w).keys := by
  induction m generalizing m' with
  | nil =>
    obtain rfl : m' = [] := by simpa [keys] using h.symm
    rfl
  | cons pair rest ih =>
    obtain ⟨k, u⟩ := pair
    obtain ⟨⟨k', u'⟩, rest', rfl⟩ : ∃ pair' rest', m' = pair' :: rest' := by
      cases m' with
      | nil => simp [keys] at h
      | cons pair' rest' => exact ⟨pair', rest', rfl⟩
    simp only [keys, List.map_cons, List.cons.injEq] at h
    obtain ⟨rfl, hrest⟩ := h
    by_cases hk : k.sameKey key = true
    · simpa [keys, insert, hk] using hrest
    · simpa [keys, insert, hk] using ih hrest

theorem keys_merge_congr {m m' : Mapping} (h : m.keys = m'.keys) (params : Mapping) :
    (m.merge params).keys = (m'.merge params).keys := by
  induction params generalizing m m' with
  | nil => exact h
  | cons pair rest ih =>
    obtain ⟨k, v⟩ := pair
    exact ih (keys_insert_congr h k v v)

end Mapping

namespace Params

/-- The names of the parameters, in the order in which they were first bound. -/
def names (p : Params) : List Value := p.entries.keys

@[simp] theorem length_names (p : Params) : p.names.length = p.size := Mapping.length_keys _

/-- The next generated name depends on the names that are bound. -/
theorem nextName_congr {p q : Params} (h : p.names = q.names) (stem : String) :
    p.nextName stem = q.nextName stem := by
  simp only [nextName, ← length_names, h]

theorem names_bind_congr {p q : Params} (h : p.names = q.names) (stem : String) (v w : Value) :
    (p.bind stem v).names = (q.bind stem w).names := by
  simpa only [names, bind, nextName_congr h] using Mapping.keys_insert_congr h _ v w

theorem names_merge_congr {p q : Params} (h : p.names = q.names) (params : Mapping) :
    (p.merge params).names = (q.merge params).names :=
  Mapping.keys_merge_congr h params

end Params

end SearchSql

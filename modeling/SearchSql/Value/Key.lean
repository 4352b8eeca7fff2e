import SearchSql.Number.Binary64
import SearchSql.Value.Basic

/-!
# Keys and mappings

Which values can be keys, which keys are the same, and the mappings under that
equality. Numbers and truth values are the same key when they are equal as numbers.
A mapping keeps the place at which a key was first inserted and the value it was last
given.

## Main definitions

* `Value.isKey` — whether a value can be a key.
* `Value.sameKey` — equality of keys.
* `Mapping.get?`, `Mapping.insert`, `Mapping.merge` — mappings under that equality.

## Main statements

* `Mapping.named?_insert_self`, `Mapping.named?_insert_of_ne` — what is found after an
  insertion.
* `Mapping.merge_append` — pairs are put in one after the other.
-/

namespace SearchSql

namespace Value

/-- Whether two numbers, given as integers or as floating-point numbers, are equal. -/
def sameNumber : Int ⊕ Float → Int ⊕ Float → Bool
  | .inl m, .inl n => m == n
  | .inl m, .inr y => Number.exactInt? y == some m
  | .inr x, .inl n => Number.exactInt? x == some n
  | .inr x, .inr y => x == y

/-- The number that a value is; a truth value is 0 or 1. -/
def number? : Value → Option (Int ⊕ Float)
  | .bool b => some (.inl (if b then 1 else 0))
  | .int n => some (.inl n)
  | .float x => some (.inr x)
  | _ => none

mutual

/-- Whether a value can be a key: nothing that may change is part of it. -/
def isKey : Value → Bool
  | .null | .bool _ | .int _ | .float _ | .text _ | .bytes _ => true
  | .tuple items => areKeys items
  | _ => false

/-- Whether all values of a list can be keys. -/
def areKeys : List Value → Bool
  | [] => true
  | item :: rest => isKey item && areKeys rest

end

mutual

/-- Whether two keys are the same. -/
def sameKey : Value → Value → Bool
  | .null, .null => true
  | .text s, .text t => s == t
  | .bytes s, .bytes t => s == t
  | .tuple items, .tuple others => sameKeys items others
  | a, b =>
    match a.number?, b.number? with
    | some x, some y => sameNumber x y
    | _, _ => false

/-- Whether two lists of keys are the same item by item. -/
def sameKeys : List Value → List Value → Bool
  | [], [] => true
  | a :: rest, b :: others => sameKey a b && sameKeys rest others
  | _, _ => false

end

/-- Only a text is the same key as a text. -/
@[simp] theorem sameKey_text_iff {k : Value} {s : String} :
    k.sameKey (.text s) = true ↔ k = .text s := by
  cases k <;> simp [sameKey, number?]

end Value

namespace Mapping

/-- The value under a key. -/
def get? (key : Value) : Mapping → Option Value
  | [] => none
  | (k, v) :: rest => if k.sameKey key then some v else get? key rest

/-- Put a value under a key: in the place of the key if it is there, at the end if not. -/
def insert (key value : Value) : Mapping → Mapping
  | [] => [(key, value)]
  | (k, v) :: rest => if k.sameKey key then (k, value) :: rest else (k, v) :: insert key value rest

/-- Put the pairs of a second mapping into the first, in their order. -/
def merge (m : Mapping) : Mapping → Mapping
  | [] => m
  | (k, v) :: rest => merge (insert k v m) rest

/-- The mapping that a list of pairs gives. -/
def ofPairs (pairs : List (Value × Value)) : Mapping := merge [] pairs

/-- The value under a text. -/
def named? (name : String) (m : Mapping) : Option Value := get? (.text name) m

theorem named?_insert_self (name : String) (v : Value) (m : Mapping) :
    (m.insert (.text name) v).named? name = some v := by
  induction m with
  | nil => simp [named?, insert, get?]
  | cons pair rest ih =>
    obtain ⟨k, w⟩ := pair
    by_cases h : k.sameKey (.text name) = true
    · simp [named?, insert, get?, h]
    · simpa [named?, insert, get?, h] using ih

theorem named?_insert_of_ne {name other : String} (h : name ≠ other) (v : Value) (m : Mapping) :
    (m.insert (.text name) v).named? other = m.named? other := by
  induction m with
  | nil => simp [named?, insert, get?, h]
  | cons pair rest ih =>
    obtain ⟨k, w⟩ := pair
    by_cases hk : k.sameKey (.text name) = true
    · simp_all [named?, insert, get?]
    · simp_all [named?, insert, get?]

/-- A new key adds a pair, a known one does not. -/
theorem length_insert (key v : Value) (m : Mapping) :
    (m.insert key v).length = if (m.get? key).isSome then m.length else m.length + 1 := by
  induction m with
  | nil => simp [insert, get?]
  | cons pair rest ih =>
    obtain ⟨k, w⟩ := pair
    by_cases hk : k.sameKey key = true
    · simp [insert, get?, hk]
    · simp only [insert, get?, hk, Bool.false_eq_true, if_false, List.length_cons, ih]
      split <;> rfl

@[simp] theorem merge_nil (m : Mapping) : m.merge [] = m := rfl

theorem merge_append (m first second : Mapping) :
    m.merge (first ++ second) = (m.merge first).merge second := by
  induction first generalizing m with
  | nil => rfl
  | cons pair rest ih =>
    obtain ⟨k, v⟩ := pair
    exact ih (insert k v m)

end Mapping

end SearchSql

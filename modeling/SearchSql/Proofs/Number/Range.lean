import SearchSql.Proofs.Number.Equality

/-!
# Numbers beyond all numbers

What the bits of a number say agrees with the tests for infinity and for no number. Every other
number has an integer part.

## Main statements

* `Number.isNaN_iff`, `Number.isInf_iff` — the tests, and what the bits say.
* `Number.truncate_eq_none_iff` — the numbers without an integer part.
-/
namespace SearchSql.Number

open Float.Model

/-- The kind of value that is read from the bits. -/
theorem unpack_of_decode (x : Float) :
    match decode x with
    | .nan => x.toModel.unpack = .notANumber
    | .infinite _ => ∃ sign, x.toModel.unpack = .infinity sign
    | .finite .. => x.toModel.unpack.isNaN = false ∧ x.toModel.unpack.isInf = false := by
  have hones : @UnpackedFloat.unpackExponent .binary64 x.toModel.toBits.toBitVec = -1#11 ↔
      x.toBits.toNat / Nat.pow 2 52 % Nat.pow 2 11 = 2047 := by
    rw [← toNat_unpackExponent, ← BitVec.toNat_inj]
    rfl
  have hzero : @UnpackedFloat.unpackMantissa .binary64 x.toModel.toBits.toBitVec = 0#52 ↔
      x.toBits.toNat % Nat.pow 2 52 = 0 := by
    rw [← toNat_unpackMantissa, ← BitVec.toNat_inj]
    rfl
  by_cases hfield : x.toBits.toNat / Nat.pow 2 52 % Nat.pow 2 11 = 2047
  · by_cases hfraction : x.toBits.toNat % Nat.pow 2 52 = 0
    · simp [decode, Float.Model.unpack, UnpackedFloat.unpack, hfield, hones.2 hfield, hfraction,
        hzero.2 hfraction]
    · simp [decode, Float.Model.unpack, UnpackedFloat.unpack, hfield, hones.2 hfield, hfraction,
        mt hzero.1 hfraction]
  · obtain ⟨negative, m, e, hx⟩ : ∃ negative m e, decode x = .finite negative m e := by
      simp only [decode, if_neg hfield]
      split <;> exact ⟨_, _, _, rfl⟩
    simp only [hx, Float.Model.unpack, UnpackedFloat.unpack]
    rw [if_neg (mt hones.1 hfield)]
    split
    · split <;> exact ⟨rfl, rfl⟩
    · exact ⟨rfl, rfl⟩

theorem isNaN_iff (x : Float) : x.isNaN = true ↔ decode x = .nan := by
  have hunpack := unpack_of_decode x
  change x.toModel.unpack.isNaN = true ↔ _
  cases hx : decode x <;> simp only [hx] at hunpack
  · simp [hunpack, UnpackedFloat.isNaN]
  · obtain ⟨sign, hsign⟩ := hunpack
    simp [hsign, UnpackedFloat.isNaN]
  · simp [hunpack]

theorem isInf_iff (x : Float) : x.isInf = true ↔ ∃ negative, decode x = .infinite negative := by
  have hunpack := unpack_of_decode x
  change x.toModel.unpack.isInf = true ↔ _
  cases hx : decode x <;> simp only [hx] at hunpack
  · simp [hunpack, UnpackedFloat.isInf]
  · obtain ⟨sign, hsign⟩ := hunpack
    simp [hsign, UnpackedFloat.isInf]
  · simp [hunpack]

/-- **A number without an integer part is none, or beyond all numbers.** -/
theorem truncate_eq_none_iff (x : Float) :
    truncate x = none ↔ x.isNaN = true ∨ x.isInf = true := by
  rw [isNaN_iff, isInf_iff, truncate]
  cases decode x <;> simp

end SearchSql.Number

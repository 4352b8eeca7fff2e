import Mathlib
import SearchSql.Value.Key

/-!
# Equality of numbers and of keys

Floating-point numbers are equal when they have the same bits, unless they are no numbers, and
when both are zero. A number that equals an integer is written in one way only, up to the
sign of zero: the significand is as large as it can be. So numbers that are equal to the same
number are equal, and the same holds of keys.

## Main statements

* `Number.beq_of_exactInt?` — numbers that equal the same integer are equal.
* `Value.sameKey_euclidean` — keys that are the same as one key are the same.
-/
namespace SearchSql

namespace Number

open Float.Model

/-! ## Bits -/

theorem toNat_unpackExponent (x : Float) :
    (@UnpackedFloat.unpackExponent .binary64 x.toModel.toBits.toBitVec).toNat =
      x.toBits.toNat / Nat.pow 2 52 % Nat.pow 2 11 := by
  simp [UnpackedFloat.unpackExponent, Float.toBits, Nat.shiftRight_eq_div_pow]

theorem toNat_unpackMantissa (x : Float) :
    (@UnpackedFloat.unpackMantissa .binary64 x.toModel.toBits.toBitVec).toNat =
      x.toBits.toNat % Nat.pow 2 52 := by
  simp [UnpackedFloat.unpackMantissa, Float.toBits]

theorem eq_of_toBits_eq {x y : Float} (h : x.toBits = y.toBits) : x = y := by
  obtain ⟨⟨xbits, hx⟩⟩ := x
  obtain ⟨⟨ybits, hy⟩⟩ := y
  obtain rfl : xbits = ybits := h
  rfl

/-- Zero is read as zero. -/
theorem decode_of_unpack_eq_zero {x : Float} {sign : UnpackedFloat.Sign}
    (h : x.toModel.unpack = .zero sign) : ∃ negative, decode x = .finite negative 0 (-1074) := by
  have hexponent := toNat_unpackExponent x
  have hmantissa := toNat_unpackMantissa x
  simp only [Float.Model.unpack, UnpackedFloat.unpack] at h
  split at h
  · split at h <;> simp at h
  · split at h
    · rename_i hfield
      split at h
      · rename_i hfraction
        rw [hfield] at hexponent
        rw [hfraction] at hmantissa
        simp only [BitVec.toNat_ofNat, Nat.zero_mod] at hexponent hmantissa
        simp [decode, ← hexponent, ← hmantissa]
      · simp at h
    · simp at h

/-- What is read as a number is one. -/
theorem unpack_ne_nan {x : Float} {negative : Bool} {m : Nat} {e : Int}
    (h : decode x = .finite negative m e) : x.toModel.unpack ≠ .notANumber := by
  intro hnan
  simp only [Float.Model.unpack, UnpackedFloat.unpack] at hnan
  split at hnan
  · rename_i hones
    have hfield : x.toBits.toNat / Nat.pow 2 52 % Nat.pow 2 11 = 2047 := by
      rw [← toNat_unpackExponent, hones]
      rfl
    simp only [decode, hfield, if_true] at h
    split at h <;> simp at h
  · split at hnan
    · split at hnan <;> simp at hnan
    · simp at hnan

/-! ## Equality -/

theorem beq_iff {x y : Float} : (x == y) = true ↔
    x.toModel.unpack ≠ .notANumber ∧ y.toModel.unpack ≠ .notANumber ∧
      (x = y ∨ ∃ s t, x.toModel.unpack = .zero s ∧ y.toModel.unpack = .zero t) := by
  have hbits : x.toModel.unpack = y.toModel.unpack ↔ x = y := by
    refine ⟨fun h => eq_of_toBits_eq ?_, fun h => by rw [h]⟩
    exact UInt64.toBitVec_inj.1 ((UnpackedFloat.unpack_inj_of_valid x.toModel.valid
      y.toModel.valid).1 h)
  change x.toModel.unpack.beq y.toModel.unpack = true ↔ _
  rw [UnpackedFloat.beq_iff_ne_notANumber_and_eq, hbits]
  refine and_congr_right fun _ => and_congr_right fun _ => ⟨?_, ?_⟩
  · rintro (h | ⟨hx, hy⟩ | ⟨hx, hy⟩)
    · exact Or.inl h
    · exact Or.inr ⟨_, _, hx, hy⟩
    · exact Or.inr ⟨_, _, hx, hy⟩
  · rintro (h | ⟨s, t, hx, hy⟩)
    · exact Or.inl h
    · cases s <;> cases t
      · exact Or.inl (hbits.1 (hx.trans hy.symm))
      · exact Or.inr (Or.inr ⟨hx, hy⟩)
      · exact Or.inr (Or.inl ⟨hx, hy⟩)
      · exact Or.inl (hbits.1 (hx.trans hy.symm))

/-- Numbers that are equal to one number are equal. -/
theorem beq_euclidean {x y z : Float} (hy : (x == y) = true) (hz : (x == z) = true) :
    (y == z) = true := by
  obtain ⟨-, hny, rfl | ⟨s, t, hxs, hyt⟩⟩ := beq_iff.1 hy
  · exact hz
  · obtain ⟨-, hnz, rfl | ⟨-, u, -, hzu⟩⟩ := beq_iff.1 hz
    · exact beq_iff.2 ⟨hny, hnz, Or.inr ⟨t, s, hyt, hxs⟩⟩
    · exact beq_iff.2 ⟨hny, hnz, Or.inr ⟨t, u, hyt, hzu⟩⟩

theorem exactInt?_of_unpack_eq_zero {x : Float} {sign : UnpackedFloat.Sign}
    (h : x.toModel.unpack = .zero sign) : exactInt? x = some 0 := by
  obtain ⟨negative, hx⟩ := decode_of_unpack_eq_zero h
  cases negative <;> simp only [exactInt?, hx, signed] <;> norm_num

/-- Equal numbers equal the same integer. -/
theorem exactInt?_congr {x y : Float} (h : (x == y) = true) : exactInt? x = exactInt? y := by
  obtain ⟨-, -, rfl | ⟨s, t, hx, hy⟩⟩ := beq_iff.1 h
  · rfl
  · rw [exactInt?_of_unpack_eq_zero hx, exactInt?_of_unpack_eq_zero hy]

/-! ## Integers -/

/-- The bits of a finite number. -/
theorem toNat_toBits_of_decode {x : Float} {negative : Bool} {m : Nat} {e : Int}
    (h : decode x = .finite negative m e) :
    ∃ k : Nat, e = (k : Int) - 1074 ∧ m < 2 ^ 53 ∧ (k = 0 ∨ 2 ^ 52 ≤ m) ∧
      x.toBits.toNat = (if negative then 2 ^ 63 else 0) + k * 2 ^ 52 + m := by
  have hbits := x.toBits.toNat_lt
  simp only [decode, Nat.pow_eq] at h
  split at h
  · split at h <;> simp at h
  · split at h
    all_goals
      simp only [Decoded.finite.injEq] at h
      obtain ⟨hs, rfl, rfl⟩ := h
    · refine ⟨0, by omega, by omega, Or.inl rfl, ?_⟩
      cases negative <;> simp at hs ⊢ <;> omega
    · refine ⟨x.toBits.toNat / 2 ^ 52 % 2 ^ 11 - 1, by omega, by omega, by omega, ?_⟩
      cases negative <;> simp at hs ⊢ <;> omega

/-- A number whose significand is zero is zero. -/
theorem unpack_of_decode_eq_zero {x : Float} {negative : Bool} {e : Int}
    (h : decode x = .finite negative 0 e) : ∃ sign, x.toModel.unpack = .zero sign := by
  obtain ⟨k, -, -, hk, hbits⟩ := toNat_toBits_of_decode h
  obtain rfl : k = 0 := by omega
  have hexponent :
      @UnpackedFloat.unpackExponent .binary64 x.toModel.toBits.toBitVec = 0 := by
    refine BitVec.toNat_inj.1 ((toNat_unpackExponent x).trans ?_)
    rw [hbits]
    cases negative <;> rfl
  have hmantissa :
      @UnpackedFloat.unpackMantissa .binary64 x.toModel.toBits.toBitVec = 0 := by
    refine BitVec.toNat_inj.1 ((toNat_unpackMantissa x).trans ?_)
    rw [hbits]
    cases negative <;> rfl
  simp [Float.Model.unpack, UnpackedFloat.unpack, hexponent, hmantissa]

/-- The value of a number that equals an integer. -/
theorem natAbs_mul_of_exactInt? {x : Float} {n : Int} (h : exactInt? x = some n) :
    ∃ negative m e, decode x = .finite negative m e ∧ n = signed negative n.natAbs ∧
      ∀ k : Nat, e = (k : Int) - 1074 → n.natAbs * 2 ^ 1074 = m * 2 ^ k := by
  cases hx : decode x with
  | nan => simp [exactInt?, hx] at h
  | infinite negative => simp [exactInt?, hx] at h
  | finite negative m e =>
    refine ⟨negative, m, e, rfl, ?_⟩
    have habs (q : Nat) : (signed negative q).natAbs = q := by
      cases negative <;> simp [signed]
    simp only [exactInt?, hx, Nat.pow_eq] at h
    split at h
    · obtain rfl := Option.some.inj h
      rw [habs]
      refine ⟨rfl, fun k hk => ?_⟩
      rw [mul_assoc, ← pow_add, show e.toNat + 1074 = k by omega]
    · split at h
      · rename_i hneg hdvd
        obtain rfl := Option.some.inj h
        rw [habs]
        refine ⟨rfl, fun k hk => ?_⟩
        rw [show 1074 = (-e).toNat + k by omega, pow_add, ← mul_assoc,
          Nat.div_mul_cancel (Nat.dvd_of_mod_eq_zero hdvd)]
      · simp at h

/-- A significand that is as large as it can be is the only one. -/
theorem significand_unique {m₁ m₂ k₁ k₂ : Nat} (h : m₁ * 2 ^ k₁ = m₂ * 2 ^ k₂) (h₁ : m₁ < 2 ^ 53)
    (hk₂ : k₂ = 0 ∨ 2 ^ 52 ≤ m₂) : k₂ ≤ k₁ := by
  by_contra hlt
  obtain ⟨d, rfl⟩ : ∃ d, k₂ = k₁ + (d + 1) := ⟨k₂ - k₁ - 1, by omega⟩
  have hm : m₁ = m₂ * 2 ^ (d + 1) := by
    refine Nat.eq_of_mul_eq_mul_right (Nat.two_pow_pos k₁) ?_
    rw [h, pow_add]
    ring
  have hle : m₂ * 2 ≤ m₁ := by
    rw [hm, pow_succ]
    nlinarith [Nat.one_le_two_pow (n := d)]
  omega

/-- **Numbers that equal the same integer are equal.** -/
theorem beq_of_exactInt? {x y : Float} {n : Int} (hx : exactInt? x = some n)
    (hy : exactInt? y = some n) : (x == y) = true := by
  obtain ⟨s, m, e, hdx, hsx, hnx⟩ := natAbs_mul_of_exactInt? hx
  obtain ⟨t, m', e', hdy, hty, hny⟩ := natAbs_mul_of_exactInt? hy
  obtain ⟨k, hk, hm, hkm, hbx⟩ := toNat_toBits_of_decode hdx
  obtain ⟨k', hk', hm', hkm', hby⟩ := toNat_toBits_of_decode hdy
  have heq : m * 2 ^ k = m' * 2 ^ k' := (hnx k hk).symm.trans (hny k' hk')
  obtain rfl : k = k' :=
    le_antisymm (significand_unique heq.symm hm' hkm) (significand_unique heq hm hkm')
  obtain rfl : m = m' := Nat.eq_of_mul_eq_mul_right (Nat.two_pow_pos k) heq
  refine beq_iff.2 ⟨unpack_ne_nan hdx, unpack_ne_nan hdy, ?_⟩
  rcases Nat.eq_zero_or_pos m with rfl | hpos
  · obtain ⟨u, hu⟩ := unpack_of_decode_eq_zero hdx
    obtain ⟨v, hv⟩ := unpack_of_decode_eq_zero hdy
    exact Or.inr ⟨u, v, hu, hv⟩
  · have hn : n.natAbs ≠ 0 := by
      intro hzero
      have := hnx k hk
      rw [hzero, Nat.zero_mul] at this
      have := Nat.mul_pos hpos (Nat.two_pow_pos k)
      omega
    obtain rfl : s = t := by
      cases s <;> cases t <;> simp only [signed] at hsx hty <;>
        first | rfl | (simp at hsx hty; omega)
    exact Or.inl (eq_of_toBits_eq (UInt64.toNat_inj.1 (hbx.trans hby.symm)))

end Number

namespace Value

/-- Numbers that are equal to one number are equal, be they integers or not. -/
theorem sameNumber_euclidean {x y z : Int ⊕ Float} (hy : sameNumber x y = true)
    (hz : sameNumber x z = true) : sameNumber y z = true := by
  cases x with
  | inl m =>
    cases y <;> cases z <;> simp only [sameNumber, beq_iff_eq] at hy hz ⊢
    · exact hy.symm.trans hz
    · exact hz.trans (congrArg some hy)
    · exact hy.trans (congrArg some hz)
    · exact Number.beq_of_exactInt? hy hz
  | inr x =>
    cases y <;> cases z <;> simp only [sameNumber, beq_iff_eq] at hy hz ⊢
    · exact Option.some.inj (hy.symm.trans hz)
    · exact (Number.exactInt?_congr hz).symm.trans hy
    · exact (Number.exactInt?_congr hy).symm.trans hz
    · exact Number.beq_euclidean hy hz

/-- A number is the same key as the numbers that are equal to it. -/
theorem sameKey_of_number? {a : Value} {x : Int ⊕ Float} (ha : a.number? = some x) (b : Value) :
    a.sameKey b = true ↔ ∃ y, b.number? = some y ∧ sameNumber x y = true := by
  cases a <;> simp only [number?, reduceCtorEq] at ha
  all_goals
    obtain rfl := Option.some.inj ha
    cases b <;> simp [sameKey, number?]

mutual

/-- **Keys that are the same as one key are the same.** -/
theorem sameKey_euclidean {b c : Value} : ∀ {a : Value}, a.sameKey b = true →
    a.sameKey c = true → b.sameKey c = true
  | .tuple items, hb, hc => by
    cases b <;> simp only [sameKey, number?, Bool.false_eq_true] at hb
    cases c <;> simp only [sameKey, number?, Bool.false_eq_true] at hc
    rw [sameKey]
    exact sameKeys_euclidean hb hc
  | .bool _, hb, hc | .int _, hb, hc | .float _, hb, hc => by
    obtain ⟨y, hy, hxy⟩ := (sameKey_of_number? rfl b).1 hb
    obtain ⟨z, hz, hxz⟩ := (sameKey_of_number? rfl c).1 hc
    exact (sameKey_of_number? hy c).2 ⟨z, hz, sameNumber_euclidean hxy hxz⟩
  | .null, hb, hc | .text _, hb, hc | .bytes _, hb, hc => by
    cases b <;> simp [sameKey, number?] at hb
    all_goals cases c <;> simp [sameKey, number?] at hc
    all_goals simp_all [sameKey]
  | .list _, hb, _ | .set _, hb, _ | .map _, hb, _ | .raw _ _, hb, _ | .query _, hb, _
  | .buffer _, hb, _ => by
    simp [sameKey, number?] at hb

theorem sameKeys_euclidean {bs cs : List Value} : ∀ {as : List Value}, sameKeys as bs = true →
    sameKeys as cs = true → sameKeys bs cs = true
  | [], hb, hc => by
    cases bs <;> simp [sameKeys] at hb
    cases cs <;> simp [sameKeys] at hc
    rfl
  | a :: as, hb, hc => by
    cases bs <;> simp only [sameKeys, Bool.and_eq_true, Bool.false_eq_true] at hb
    cases cs <;> simp only [sameKeys, Bool.and_eq_true, Bool.false_eq_true] at hc
    rw [sameKeys, Bool.and_eq_true]
    exact ⟨sameKey_euclidean hb.1 hc.1, sameKeys_euclidean hb.2 hc.2⟩

end

end Value

end SearchSql

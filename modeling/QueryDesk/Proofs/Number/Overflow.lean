import Mathlib.Algebra.Order.Field.Power
import Mathlib.Data.Rat.Cast.Order
import Mathlib.Tactic.Positivity
import QueryDesk.Proofs.Number.Rounding

/-!
# The largest finite doubles

A number is infinite as a double just if it is not below `2 ^ 1024 - 2 ^ 970`, the middle between
the largest finite double and the next power of two. This holds of coefficients of any size with
exponents of any size.
-/

namespace QueryDesk.Binary64

/-- The least number that is infinite as a double. -/
def border : Nat := 2 ^ 1024 - 2 ^ 970

/-! ## The border -/

theorem isFinite_ofUnits_iff (negative : Bool) (units : Nat) :
    (ofUnits negative units).isFinite = true ↔ units < overflow := by
  unfold ofUnits
  split
  · rename_i small
    exact iff_of_true rfl small
  · rename_i large
    exact iff_of_false Bool.false_ne_true large

theorem isFinite_ofRatio_iff (negative : Bool) (num : Nat) {den : Nat} (positive : 0 < den) :
    (ofRatio negative num den).isFinite = true ↔ num < border * den := by
  obtain ⟨bits, -, one_eq, overflow_eq⟩ := exists_bits
  have sum : 1024 + bits = 970 + bits + 54 := by omega
  have scaled (a b : Nat) :
      (2 ^ (a + bits) - 2 ^ (b + bits)) * den = (2 ^ a - 2 ^ b) * den * 2 ^ bits := by
    rw [Nat.pow_add, Nat.pow_add, ← Nat.sub_mul, Nat.mul_right_comm]
  rw [ofRatio, isFinite_ofUnits_iff, overflow_eq, sum, roundUnits_lt_iff positive, ← sum, scaled,
    one_eq, Nat.mul_lt_mul_right (Nat.two_pow_pos bits), border]

theorem border_pos : 0 < border := by
  have positive (a b : Nat) (less : a < b) : 0 < 2 ^ b - 2 ^ a :=
    Nat.sub_pos_of_lt (Nat.pow_lt_pow_right (by decide) less)
  exact positive 970 1024 (by decide)

/-- The border has no more than 400 digits. -/
theorem border_le {width : Nat} (wide : 400 ≤ width) : border ≤ 10 ^ width := by
  have widened (least : Nat) (fits : border ≤ Nat.pow 10 least) (wide : least ≤ width) :
      border ≤ 10 ^ width := Nat.le_trans fits (Nat.pow_le_pow_right (by decide) wide)
  exact widened 400 (by decide +kernel) wide

/-! ## Coefficients and exponents -/

variable {coefficient : Nat}

theorem lt_pow_decimalLength (coefficient : Nat) :
    coefficient < 10 ^ decimalLength coefficient :=
  (Nat.length_toDigits_le_iff (by decide) Nat.length_toDigits_pos).mp (Nat.le_refl _)

theorem pow_le_of_pos (positive : 0 < coefficient) :
    10 ^ (decimalLength coefficient - 1) ≤ coefficient := by
  by_cases single : decimalLength coefficient - 1 = 0
  · rw [single]
    exact positive
  · by_contra small
    have short := (Nat.length_toDigits_le_iff (by decide) (Nat.pos_of_ne_zero single)).mpr
      (Nat.lt_of_not_le small)
    rw [decimalLength] at short single
    omega

theorem one_le_border : (1 : ℚ) ≤ border := by
  exact_mod_cast border_pos

/-- From the cutoff for large magnitudes on, no number is below the border. -/
theorem border_le_of_large {exponent : Int} (positive : 0 < coefficient)
    (large : 400 < exponent + decimalLength coefficient) :
    (border : ℚ) ≤ coefficient * 10 ^ exponent := by
  obtain ⟨width, size⟩ : ∃ width : Nat,
      exponent + (decimalLength coefficient - 1 : Nat) = width := by
    have digits : 0 < decimalLength coefficient := Nat.length_toDigits_pos
    exact Int.eq_ofNat_of_zero_le (by omega)
  have leading : (10 : ℚ) ^ (decimalLength coefficient - 1) ≤ coefficient := by
    exact_mod_cast pow_le_of_pos positive
  calc (border : ℚ)
      ≤ 10 ^ width := by exact_mod_cast border_le (by omega)
    _ = 10 ^ (decimalLength coefficient - 1) * 10 ^ exponent := by
      rw [← zpow_natCast, ← zpow_natCast, ← size, zpow_add₀ (by norm_num), mul_comm]
    _ ≤ coefficient * 10 ^ exponent := by gcongr

/-- Below the cutoff for small magnitudes, every number is below the border. -/
theorem lt_border_of_small {exponent : Int}
    (small : exponent + decimalLength coefficient < -400) :
    (coefficient : ℚ) * 10 ^ exponent < border := by
  have below : (coefficient : ℚ) < 10 ^ decimalLength coefficient := by
    exact_mod_cast lt_pow_decimalLength coefficient
  calc (coefficient : ℚ) * 10 ^ exponent
      < 10 ^ decimalLength coefficient * 10 ^ exponent := by gcongr
    _ = 10 ^ (exponent + decimalLength coefficient) := by
      rw [zpow_add₀ (by norm_num), zpow_natCast, mul_comm]
    _ ≤ 1 := zpow_le_one_of_nonpos₀ (by norm_num) (by omega)
    _ ≤ border := one_le_border

/-- A number is finite as a double just if it is below the border. -/
theorem isFinite_ofScientific_iff (negative : Bool) (coefficient : Nat) (exponent : Int) :
    (ofScientific negative coefficient exponent).isFinite = true ↔
      (coefficient : ℚ) * 10 ^ exponent < border := by
  unfold ofScientific
  split
  · rename_i zero
    rw [zero, Nat.cast_zero, zero_mul]
    exact iff_of_true rfl (lt_of_lt_of_le one_pos one_le_border)
  rename_i nonzero
  dsimp only
  split
  · rename_i large
    exact iff_of_false Bool.false_ne_true
      (not_lt.mpr (border_le_of_large (Nat.pos_of_ne_zero nonzero) large))
  split
  · rename_i small
    exact iff_of_true rfl (lt_border_of_small small)
  split
  · rename_i whole
    obtain ⟨places, rfl⟩ := Int.eq_ofNat_of_zero_le whole
    rw [Int.toNat_natCast, Nat.pow_eq, isFinite_ofRatio_iff _ _ Nat.one_pos, mul_one, zpow_natCast]
    norm_cast
  · rename_i fraction
    obtain ⟨places, rfl⟩ : ∃ places : Nat, exponent = -places := ⟨(-exponent).toNat, by omega⟩
    have power : 0 < 10 ^ places := Nat.pow_pos (by decide)
    rw [neg_neg, Int.toNat_natCast, Nat.pow_eq, isFinite_ofRatio_iff _ _ power, zpow_neg,
      zpow_natCast, ← div_eq_mul_inv, div_lt_iff₀ (by positivity)]
    norm_cast

end QueryDesk.Binary64

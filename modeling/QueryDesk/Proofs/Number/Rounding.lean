import Mathlib.Algebra.Order.Ring.Nat
import Mathlib.Data.Nat.Log
import Mathlib.Tactic.Ring
import QueryDesk.Number.Binary64

/-!
# Rounding to doubles

A quotient is rounded to the nearest whole number, and a half to the even one. So a quotient of
units is infinite as a double just if it reaches the middle between the largest finite double and
the power of two after it: this middle is rounded up.
-/

namespace QueryDesk.Binary64

/-! ## Rounding to whole numbers -/

theorem roundDiv_mul (num den : Nat) {k : Nat} (positive : 0 < k) :
    roundDiv (num * k) (den * k) = roundDiv num den := by
  have twice (r : Nat) : 2 * (r * k) = 2 * r * k := (Nat.mul_assoc 2 r k).symm
  unfold roundDiv
  simp only [Nat.mul_div_mul_right num den positive, Nat.mul_mod_mul_right, twice,
    Nat.mul_lt_mul_right positive]

/-- Rounding leaves out no whole number that is reached. -/
theorem div_le_roundDiv (num den : Nat) : num / den ≤ roundDiv num den := by
  unfold roundDiv
  dsimp only
  split
  · exact Nat.le_refl _
  · split <;> omega

/-- Rounding adds no more than a half. -/
theorem roundDiv_mul_le (num den : Nat) : 2 * (roundDiv num den * den) ≤ 2 * num + den := by
  have parts : num / den * den + num % den = num := by
    rw [Nat.mul_comm]
    exact Nat.div_add_mod num den
  have next : (num / den + 1) * den = num / den * den + den := Nat.succ_mul _ _
  unfold roundDiv
  dsimp only
  split
  · omega
  · split
    · rw [next]
      omega
    · rename_i notLess notMore
      rcases Nat.mod_two_eq_zero_or_one (num / den) with even | odd
      · rw [even, Nat.add_zero]
        omega
      · rw [odd, next]
        omega

/-- What is less than a half above an odd number is not rounded past it, and the half is. -/
theorem roundDiv_le_iff {num den m : Nat} (positive : 0 < den) (odd : m % 2 = 1) :
    roundDiv num den ≤ m ↔ 2 * num < (2 * m + 1) * den := by
  have parts : num / den * den + num % den = num := by
    rw [Nat.mul_comm]
    exact Nat.div_add_mod num den
  have rest := Nat.mod_lt num positive
  have border : (2 * m + 1) * den = 2 * (m * den) + den := by ring
  rw [border]
  rcases Nat.lt_trichotomy (num / den) m with below | same | above
  · have gap : (num / den + 1) * den ≤ m * den := Nat.mul_le_mul_right den below
    rw [Nat.succ_mul] at gap
    refine iff_of_true ?_ (by omega)
    unfold roundDiv
    dsimp only
    split
    · omega
    · split <;> omega
  · rw [same] at parts
    unfold roundDiv
    dsimp only
    rw [same, odd]
    split
    · omega
    · split <;> omega
  · have gap : (m + 1) * den ≤ num / den * den := Nat.mul_le_mul_right den above
    rw [Nat.succ_mul] at gap
    have kept := div_le_roundDiv num den
    exact iff_of_false (by omega) (by omega)

/-! ## The border of the finite doubles -/

/-- The number of bits after the point; it is named here so that no power of it is ever formed. -/
theorem exists_bits : ∃ bits, bits = 1074 ∧ one = 2 ^ bits ∧ overflow = 2 ^ (1024 + bits) := by
  have named : ∃ bits, bits = 1074 ∧ one = Nat.pow 2 bits ∧ overflow = Nat.pow 2 (1024 + bits) := by
    refine ⟨1074, rfl, ?_, ?_⟩
    · decide +kernel
    · decide +kernel
  simpa only [Nat.pow_eq] using named

variable {num den n : Nat}

/-- Rounding, with the number of bits that it drops named. -/
theorem roundUnits_eq {s : Nat} (dropped : (num / den).log2 + 1 - 53 = s) :
    roundUnits num den = roundDiv num (den * 2 ^ s) * 2 ^ s := by
  rw [← dropped]
  rfl

theorem log2_lt_of_lt (positive : 0 < den) (some_bits : 0 < n) (below : num < 2 ^ n * den) :
    (num / den).log2 < n := by
  by_cases none : num / den = 0
  · rw [none]
    exact some_bits
  · exact (Nat.log2_lt none).mpr ((Nat.div_lt_iff_lt_mul positive).mpr below)

theorem le_log2_of_le (positive : 0 < den) (above : 2 ^ n * den ≤ num) :
    n ≤ (num / den).log2 ∧ num / den ≠ 0 := by
  have reached : 2 ^ n ≤ num / den := (Nat.le_div_iff_mul_le positive).mpr above
  have some_units : num / den ≠ 0 := Nat.ne_of_gt (Nat.lt_of_lt_of_le (Nat.two_pow_pos n) reached)
  exact ⟨(Nat.le_log2 some_units).mpr reached, some_units⟩

/-- Units that start below a power of two are not rounded past it. -/
theorem roundUnits_le (positive : 0 < den) (wide : 53 ≤ n) (below : num < 2 ^ n * den) :
    roundUnits num den ≤ 2 ^ n := by
  have bits := log2_lt_of_lt positive (by omega) below
  generalize dropped : (num / den).log2 + 1 - 53 = s
  have units : num < den * 2 ^ s * 2 ^ 53 := by
    have reached := Nat.lt_mul_div_succ num positive
    have binade : num / den + 1 ≤ 2 ^ (s + 53) :=
      Nat.le_trans Nat.lt_log2_self (Nat.pow_le_pow_right (by decide) (by omega))
    rw [Nat.mul_assoc, ← Nat.pow_add]
    exact Nat.lt_of_lt_of_le reached (Nat.mul_le_mul_left den binade)
  have spare : 0 < den * 2 ^ s := Nat.mul_pos positive (Nat.two_pow_pos s)
  have error := roundDiv_mul_le num (den * 2 ^ s)
  have bounded : roundDiv num (den * 2 ^ s) ≤ 2 ^ 53 := by
    by_contra more
    have gap : (2 ^ 53 + 1) * (den * 2 ^ s) ≤ roundDiv num (den * 2 ^ s) * (den * 2 ^ s) :=
      Nat.mul_le_mul_right _ (Nat.lt_of_not_le more)
    omega
  calc roundUnits num den = roundDiv num (den * 2 ^ s) * 2 ^ s := roundUnits_eq dropped
    _ ≤ 2 ^ 53 * 2 ^ s := Nat.mul_le_mul_right _ bounded
    _ = 2 ^ (53 + s) := (Nat.pow_add 2 53 s).symm
    _ ≤ 2 ^ n := Nat.pow_le_pow_right (by decide) (by omega)

/-- Units from a power of two on are not rounded below it. -/
theorem le_roundUnits (positive : 0 < den) (wide : 53 ≤ n) (above : 2 ^ n * den ≤ num) :
    2 ^ n ≤ roundUnits num den := by
  obtain ⟨bits, some_units⟩ := le_log2_of_le positive above
  generalize dropped : (num / den).log2 + 1 - 53 = s
  have binade : 2 ^ (52 + s) ≤ num / den :=
    Nat.le_trans (Nat.pow_le_pow_right (by decide) (by omega)) (Nat.log2_self_le some_units)
  have kept : 2 ^ 52 ≤ roundDiv num (den * 2 ^ s) := by
    refine Nat.le_trans ?_ (div_le_roundDiv _ _)
    rw [← Nat.div_div_eq_div_mul, Nat.le_div_iff_mul_le (Nat.two_pow_pos s), ← Nat.pow_add]
    exact binade
  calc 2 ^ n ≤ 2 ^ (52 + s) := Nat.pow_le_pow_right (by decide) (by omega)
    _ = 2 ^ 52 * 2 ^ s := Nat.pow_add 2 52 s
    _ ≤ roundDiv num (den * 2 ^ s) * 2 ^ s := Nat.mul_le_mul_right _ kept
    _ = roundUnits num den := (roundUnits_eq dropped).symm

/-- In the last binade before a power of two, all but `k + 1` bits are kept, and the middle before
    the power is rounded up to it. -/
theorem roundUnits_lt_iff_of_binade (positive : 0 < den) {k : Nat}
    (bits : (num / den).log2 = k + 53) :
    roundUnits num den < 2 ^ (k + 54) ↔ num < (2 ^ (k + 54) - 2 ^ k) * den := by
  have rounds : roundUnits num den = roundDiv num (den * 2 ^ (k + 1)) * 2 ^ (k + 1) :=
    roundUnits_eq (by omega)
  have bound : 2 ^ (k + 54) = 2 ^ 53 * 2 ^ (k + 1) := by
    have sum : k + 54 = 53 + (k + 1) := by omega
    rw [sum, Nat.pow_add]
  have spare : 0 < den * 2 ^ (k + 1) := Nat.mul_pos positive (Nat.two_pow_pos _)
  have border : (2 ^ (k + 54) - 2 ^ k) * den = 2 ^ 54 * (2 ^ k * den) - 2 ^ k * den := by
    rw [Nat.sub_mul, Nat.pow_add, Nat.mul_comm (2 ^ k) (2 ^ 54), Nat.mul_assoc]
  have unit : den * 2 ^ (k + 1) = 2 * (2 ^ k * den) := by ring
  have largest := @roundDiv_le_iff num _ (2 ^ 53 - 1) spare (by decide)
  rw [rounds, bound, Nat.mul_lt_mul_right (Nat.two_pow_pos _), ← bound, border]
  rw [unit] at largest ⊢
  omega

/-- Units are rounded below a power of two just if they stay below the middle between it and the
    largest number of 53 bits before it. -/
theorem roundUnits_lt_iff (positive : 0 < den) (k : Nat) :
    roundUnits num den < 2 ^ (k + 54) ↔ num < (2 ^ (k + 54) - 2 ^ k) * den := by
  have double : 2 ^ (k + 54) = 2 * 2 ^ (k + 53) := Nat.pow_succ'
  have middle : 2 ^ (k + 53) ≤ 2 ^ (k + 54) - 2 ^ k := by
    have small : 2 ^ k ≤ 2 ^ (k + 53) := Nat.pow_le_pow_right (by decide) (by omega)
    omega
  by_cases below : num < 2 ^ (k + 53) * den
  · have bounded := roundUnits_le positive (by omega) below
    have room := Nat.two_pow_pos (k + 53)
    exact iff_of_true (by omega) (Nat.lt_of_lt_of_le below (Nat.mul_le_mul_right den middle))
  by_cases above : 2 ^ (k + 54) * den ≤ num
  · have kept := le_roundUnits positive (by omega) above
    have smaller : (2 ^ (k + 54) - 2 ^ k) * den ≤ 2 ^ (k + 54) * den :=
      Nat.mul_le_mul_right den (Nat.sub_le _ _)
    exact iff_of_false (Nat.not_lt.mpr kept) (Nat.not_lt.mpr (Nat.le_trans smaller above))
  have least := (le_log2_of_le positive (Nat.le_of_not_lt below)).1
  have most := log2_lt_of_lt positive (by omega) (Nat.lt_of_not_le above)
  exact roundUnits_lt_iff_of_binade positive (by omega)

end QueryDesk.Binary64

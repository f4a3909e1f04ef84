import QueryDesk.Proofs.Number.Rounding
import QueryDesk.Token.Issue

/-!
# Times in tokens

A token states times in whole seconds, cut off from the nearest double. Up to the second `2 ^ 34`
after the start of 1970 a double is near enough to its time for the second to be right. After that
a time that is at most fifteen microseconds before a full second may be stated as that second.
-/

namespace QueryDesk

namespace Binary64

/-! ## Whole seconds -/

variable {micros k : Nat}

/-- The whole part of the double nearest to a number of microseconds is found without the units of
    doubles, once it leaves `k` bits or more to the fraction. -/
theorem exists_scale (few : k ≤ 53) (small : micros < 2 ^ (53 - k) * 1000000) :
    ∃ scale spare, 2 ^ k ≤ scale ∧ 0 < spare ∧ scale * spare = one ∧
      roundUnits (micros * one) 1000000 = roundDiv (micros * scale) 1000000 * spare := by
  obtain ⟨bits, size, one_eq, -⟩ := exists_bits
  generalize exponent : (micros * one / 1000000).log2 + 1 - 53 = e
  have bound : e ≤ bits - k := by
    have units : micros * one < 2 ^ (53 - k + bits) * 1000000 := by
      rw [Nat.pow_add, one_eq, Nat.mul_right_comm]
      exact Nat.mul_lt_mul_of_pos_right small (Nat.two_pow_pos bits)
    have binade := log2_lt_of_lt (by decide) (by omega) units
    omega
  have whole : 2 ^ (bits - e) * 2 ^ e = one := by
    have same : bits - e + e = bits := by omega
    rw [← Nat.pow_add, same, one_eq]
  refine ⟨2 ^ (bits - e), 2 ^ e, Nat.pow_le_pow_right (by decide) (by omega), Nat.two_pow_pos e,
    whole, ?_⟩
  rw [roundUnits_eq exponent, ← whole, ← Nat.mul_assoc, roundDiv_mul _ _ (Nat.two_pow_pos e)]

/-- The whole part of the double nearest to a number of microseconds in seconds: the second is that
    of a time that is less than `t` microseconds later, where the fraction has enough bits. -/
theorem roundUnits_div_one {t : Nat} (few : k ≤ 53) (small : micros < 2 ^ (53 - k) * 1000000)
    (fine : 1000000 < 2 * t * 2 ^ k) (positive : 0 < t) :
    micros / 1000000 ≤ roundUnits (micros * one) 1000000 / one ∧
      roundUnits (micros * one) 1000000 / one ≤ (micros + (t - 1)) / 1000000 := by
  obtain ⟨scale, spare, enough, spares, whole, units⟩ := exists_scale few small
  have scales : 0 < scale := Nat.lt_of_lt_of_le (Nat.two_pow_pos k) enough
  rw [units, ← whole, Nat.mul_div_mul_right _ _ spares]
  constructor
  · rw [Nat.le_div_iff_mul_le scales]
    refine Nat.le_trans ?_ (div_le_roundDiv _ _)
    rw [Nat.le_div_iff_mul_le (by decide), Nat.mul_right_comm]
    exact Nat.mul_le_mul_right scale (Nat.div_mul_le_self micros 1000000)
  · generalize seconds : roundDiv (micros * scale) 1000000 / scale = n
    have reached : n * scale ≤ roundDiv (micros * scale) 1000000 :=
      seconds ▸ Nat.div_mul_le_self _ _
    have error := roundDiv_mul_le (micros * scale) 1000000
    rw [Nat.le_div_iff_mul_le (by decide)]
    -- Otherwise the double would be `t` microseconds off, and its error is less.
    by_contra late
    have apart : micros + t ≤ n * 1000000 := by omega
    have scaled := Nat.mul_le_mul_right scale apart
    have gap := Nat.mul_le_mul_left (2 * t) enough
    have order : n * 1000000 * scale = n * scale * 1000000 := Nat.mul_right_comm _ _ _
    have times : (micros + t) * scale = micros * scale + t * scale := Nat.add_mul _ _ _
    have twice : 2 * t * scale = 2 * (t * scale) := Nat.mul_assoc _ _ _
    omega

/-- A double with a small whole part is finite. -/
theorem ofUnits_of_small {units : Nat} (small : units / one < 2 ^ 39) :
    ofUnits false units = .finite false units := by
  have positive : 0 < one := by
    obtain ⟨bits, -, one_eq, -⟩ := exists_bits
    exact one_eq ▸ Nat.two_pow_pos bits
  have bound : 2 ^ 39 * one ≤ overflow := by decide +kernel
  rw [Nat.div_lt_iff_lt_mul positive] at small
  rw [ofUnits, if_pos (Nat.lt_of_lt_of_le small bound)]

end Binary64

namespace Token

/-- The whole second in which a token states a time, in microseconds after the start of 1970: the
    second of the time itself, or later than `2 ^ 34` seconds that of a time up to fifteen
    microseconds after it. -/
structure Stamps (micros second : Int) : Prop where
  lower : micros / 1000000 ≤ second
  upper : second ≤ (micros + 15) / 1000000
  exact : micros < 2 ^ 34 * 1000000 → second = micros / 1000000

/-- The last moment of the calendar is less than `2 ^ 38` seconds after the start of 1970. -/
theorem sinceEpoch_lt {m : Moment} (utc : m.offset? = some 0)
    (inRange : Moment.inRange m.micros = true) : m.sinceEpoch < 2 ^ 38 * 1000000 := by
  have since : m.sinceEpoch = m.micros - Calendar.epochDays * Moment.day := by
    rw [Moment.sinceEpoch, Moment.universal, utc, Option.getD_some, Int.sub_zero]
  have late : Moment.endOfTime ≤ 2 ^ 38 * 1000000 + Calendar.epochDays * Moment.day := by decide
  rw [Moment.inRange, Bool.and_eq_true, decide_eq_true_eq, decide_eq_true_eq] at inRange
  omega

theorem timestamp_stamps {m : Moment} (utc : m.offset? = some 0)
    (inRange : Moment.inRange m.micros = true) (recent : 0 ≤ m.sinceEpoch) :
    Stamps m.sinceEpoch (timestamp m) := by
  have early := sinceEpoch_lt utc inRange
  obtain ⟨micros, since⟩ := Int.eq_ofNat_of_zero_le recent
  rw [since] at early
  have small : micros < 2 ^ (53 - 15) * 1000000 := by omega
  obtain ⟨lower, upper⟩ := Binary64.roundUnits_div_one (t := 16) (by decide) small (by decide)
    (by decide)
  have stamp : timestamp m =
      (Binary64.roundUnits (micros * Binary64.one) 1000000 / Binary64.one : Nat) := by
    have bound : (micros + (16 - 1)) / 1000000 < 2 ^ 39 := by omega
    have finite := Binary64.ofUnits_of_small (Nat.lt_of_le_of_lt upper bound)
    have sign : decide ((micros : Int) < 0) = false := by simp
    rw [timestamp, since, Int.natAbs_natCast, sign, Binary64.ofRatio, finite]
    rfl
  rw [stamp, since]
  refine ⟨by omega, by omega, ?_⟩
  intro near
  have smaller : micros < 2 ^ (53 - 19) * 1000000 := by omega
  obtain ⟨lower', upper'⟩ := Binary64.roundUnits_div_one (t := 1) (by decide) smaller (by decide)
    (by decide)
  omega

end Token

end QueryDesk

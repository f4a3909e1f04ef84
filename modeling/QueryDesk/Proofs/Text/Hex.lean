import QueryDesk.Text.Hex

/-!
# Reading hexadecimal digits

A digit that was written is read back, and every character of a written number is such a digit.
-/

namespace QueryDesk.Text

theorem hexValue?_hexDigit {n : Nat} (small : n < 16) : hexValue? (hexDigit n) = some n := by
  revert n
  decide

theorem hexValue?_lt {c : Char} {d : Nat} (read : hexValue? c = some d) : d < 16 := by
  unfold hexValue? at read
  simp only [Bool.and_eq_true, decide_eq_true_eq] at read
  split at read
  · cases read
    omega
  · split at read
    · cases read
      omega
    · split at read
      · cases read
        omega
      · cases read

theorem toNat_hexDigit {n : Nat} (small : n < 16) :
    (48 ≤ (hexDigit n).toNat ∧ (hexDigit n).toNat ≤ 57) ∨
      (97 ≤ (hexDigit n).toNat ∧ (hexDigit n).toNat ≤ 102) := by
  revert n
  decide

/-- A written digit is one of `0` to `9` or a lower-case letter up to `f`. -/
theorem toNat_of_mem_hexDigits {width n : Nat} {c : Char} (mem : c ∈ hexDigits width n) :
    (48 ≤ c.toNat ∧ c.toNat ≤ 57) ∨ (97 ≤ c.toNat ∧ c.toNat ≤ 102) := by
  induction width generalizing n with
  | zero => cases mem
  | succ width ih =>
    rcases List.mem_append.mp mem with earlier | last
    · exact ih earlier
    · obtain rfl := List.mem_singleton.mp last
      exact toNat_hexDigit (Nat.mod_lt n (by decide))

end QueryDesk.Text

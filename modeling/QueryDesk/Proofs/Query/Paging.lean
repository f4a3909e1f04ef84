import Mathlib.Data.List.TakeWhile
import QueryDesk.Proofs.Number.Spelling
import QueryDesk.Query.Pagination

/-!
# Asking for a page

A limit and a page number that are written as plain decimal texts are read back, and together they
ask for the rows of that page.
-/

namespace QueryDesk

namespace Pagination

open Numeral

theorem leadingInt?_digits {digits : List Char} (nonempty : digits ≠ [])
    (every : ∀ c ∈ digits, Text.isAsciiDigit c = true) (short : digits.length ≤ maxDigits) :
    leadingInt? digits = some (natOfDigits digits : Int) := by
  obtain ⟨first, rest, rfl⟩ := List.exists_cons_of_ne_nil nonempty
  have digit := every first List.mem_cons_self
  have notBlank : Text.isAsciiBlank first = false := by
    simp only [Text.isAsciiDigit, Bool.and_eq_true, decide_eq_true_eq] at digit
    simp only [Text.isAsciiBlank, Bool.or_eq_false_iff, Bool.and_eq_false_iff, decide_eq_false_iff_not,
      beq_eq_false_iff_ne]
    omega
  have begins : (first :: rest).dropWhile Text.isAsciiBlank = first :: rest := by
    rw [List.dropWhile_cons, notBlank, if_neg Bool.false_ne_true]
  have all : (first :: rest).takeWhile Text.isAsciiDigit = first :: rest :=
    List.takeWhile_eq_self_iff.mpr every
  have usable : ((first :: rest).isEmpty || decide (maxDigits < (first :: rest).length)) = false := by
    simpa using short
  rw [leadingInt?, begins, takeSign_of_digits every]
  simp only [all, usable, if_neg Bool.false_ne_true]
  rfl

/-- A number is read back from its text. -/
theorem leadingInt?_toString {n : Nat} (fits : (n : Int) ≤ 0x8000000000000000) :
    leadingInt? (toString n).toList = some (n : Int) := by
  have digits : (toString n).toList = Nat.toDigits 10 n := Nat.toList_repr
  have read := leadingInt?_digits Nat.toDigits_ne_nil
    (fun c mem => isAsciiDigit_of_mem_toDigits mem) (length_toDigits_le fits)
  rw [digits, read, natOfDigits_toDigits]

theorem toString_ne_unlimited (n : Nat) : toString n ≠ "-1" := by
  intro same
  have mem : '-' ∈ Nat.toDigits 10 n := by
    have digits : (toString n).toList = Nat.toDigits 10 n := Nat.toList_repr
    rw [← digits, same]
    decide
  have digit := isAsciiDigit_of_mem_toDigits mem
  cases digit

theorem paramInt_toString {n : Nat} (fits : (n : Int) ≤ 0x8000000000000000) :
    paramInt (.text (toString n)) = .ok (some (n : Int)) := by
  have read : paramInt (.text (toString n)) = .ok (leadingInt? (toString n).toList) := rfl
  rw [read, leadingInt?_toString fits]

/-- A limit and the number of a page ask for the rows after those of the pages before. -/
theorem resolve_page {size before : Nat} (size_fits : (size : Int) ≤ 0x8000000000000000)
    (before_fits : (before : Int) < 0x8000000000000000) :
    resolve (.text (toString (before + 1))) (.text (toString size)) .null =
      .ok ⟨some (size : Int), (before * size : Nat)⟩ := by
  have limited : limitOf (.text (toString size)) = .ok (some (size : Int)) := by
    unfold limitOf
    split
    · rename_i same
      exact absurd (Value.text.inj same) (toString_ne_unlimited size)
    · exact paramInt_toString size_fits
  have number_fits : ((before + 1 : Nat) : Int) ≤ 0x8000000000000000 := by omega
  have paged : paramIntOr defaultPage (.text (toString (before + 1))) =
      .ok (some ((before + 1 : Nat) : Int)) := paramInt_toString number_fits
  have offset : (((before + 1 : Nat) : Int) - 1) * size = (before * size : Nat) := by
    rw [Int.natCast_add, Int.natCast_one, Int.add_sub_cancel, Int.natCast_mul]
  simp only [resolve, limited, isGiven, paged, bind, Except.bind, if_neg Bool.false_ne_true, offset]
  rfl

end Pagination

end QueryDesk

import QueryDesk.Number.Notation
import QueryDesk.Proofs.Number.Spelling

/-!
# Notations of numbers

A text in plain decimal notation has two hyphens at most, one before the number and one before its
exponent. A stored double is written with a point or with the sign of an exponent.
-/

namespace QueryDesk

/-! ## Hyphens in plain notation -/

namespace Numeral

open Text

theorem count_takeSign (cs : List Char) : cs.count '-' ≤ (takeSign cs).2.count '-' + 1 := by
  unfold takeSign
  split <;> simp

theorem count_of_digits {digits : List Char} (every : ∀ c ∈ digits, isAsciiDigit c = true) :
    digits.count '-' = 0 :=
  List.count_eq_zero.mpr fun mem => absurd (every '-' mem) (by decide)

theorem count_of_digits? {cs digits : List Char} (read : digits? cs = some digits) :
    cs.count '-' = 0 := by
  unfold digits? at read
  split at read
  · rename_i run
    rw [Bool.and_eq_true, List.all_eq_true] at run
    exact count_of_digits run.2
  · cases read

/-- An exponent has one sign at most. -/
theorem count_of_exponentPart? {cs : List Char} {e : Int} (read : exponentPart? cs = some e) :
    cs.count '-' ≤ 1 := by
  cases cs with
  | nil => simp
  | cons c rest =>
    rw [exponentPart?] at read
    split at read
    · rename_i letter
      obtain ⟨digits, run, -⟩ := Option.map_eq_some_iff.mp read
      have none_left : (takeSign rest).2.count '-' = 0 := count_of_digits? run
      have noHyphen : c ≠ '-' := by
        rintro rfl
        exact absurd letter (by decide)
      have signs := count_takeSign rest
      rwa [none_left, ← List.count_cons_of_ne noHyphen] at signs
    · cases read

theorem count_span (cs : List Char) : (cs.span isAsciiDigit).2.count '-' = cs.count '-' := by
  have run : (cs.takeWhile isAsciiDigit).count '-' = 0 :=
    count_of_digits fun c mem => List.mem_takeWhile_imp mem
  have whole : ((cs.takeWhile isAsciiDigit) ++ cs.dropWhile isAsciiDigit).count '-' =
      cs.count '-' := by
    rw [List.takeWhile_append_dropWhile]
  rw [List.count_append, run, Nat.zero_add] at whole
  rw [List.span_eq_takeWhile_dropWhile]
  exact whole

theorem count_takeFraction (cs : List Char) :
    (takeFraction cs).2.2.count '-' = cs.count '-' := by
  unfold takeFraction
  split
  · rename_i rest
    rw [List.count_cons_of_ne (by decide)]
    exact count_span rest
  · rfl

theorem count_of_scientific? {cs : List Char} {x : Scientific} (read : scientific? cs = some x) :
    cs.count '-' ≤ 1 := by
  simp only [scientific?] at read
  split at read
  · cases read
  · obtain ⟨e, exponent, -⟩ := Option.map_eq_some_iff.mp read
    have few := count_of_exponentPart? exponent
    rwa [count_takeFraction, count_span] at few

end Numeral

namespace Operand

open Numeral

theorem count_of_plain? {cs : List Char} {p : Plain} (read : plain? cs = some p) :
    cs.count '-' ≤ 2 := by
  obtain ⟨x, number, -⟩ := Option.map_eq_some_iff.mp read
  have signs := count_takeSign cs
  have few : (takeSign cs).2.count '-' ≤ 1 := count_of_scientific? number
  omega

/-- A text with three hyphens stands for itself. -/
theorem ofText_of_hyphens {s : String} (many : 3 ≤ (Text.trim s.toList).count '-') :
    ofText s = .text s := by
  have none : plain? (Text.trim s.toList) = none := by
    cases read : plain? (Text.trim s.toList) with
    | none => rfl
    | some p =>
      have few := count_of_plain? read
      omega
  rw [ofText, none]
  rfl

theorem isFinite_of_number? {p : Plain} {x : Binary64} (read : number? p = some (.float x)) :
    x.isFinite = true := by
  simp only [number?] at read
  split at read
  · cases read
  · rename_i finite
    have nearest : Binary64.ofScientific p.negative p.number.coefficient p.number.exponent = x := by
      split at read
      · split at read <;> cases read
        rfl
      · cases read
        rfl
    simpa [nearest] using finite

/-- A double that a text stands for is finite. -/
theorem finite_of_ofText {s : String} {x : Binary64} (read : ofText s = .float x) :
    ∃ negative units, x = .finite negative units := by
  rw [ofText] at read
  cases number : (plain? (Text.trim s.toList)).bind number? with
  | none =>
    rw [number] at read
    cases read
  | some v =>
    rw [number] at read
    obtain rfl : v = .float x := read
    obtain ⟨p, -, number⟩ := Option.bind_eq_some_iff.mp number
    have finite := isFinite_of_number? number
    cases x with
    | finite negative units => exact ⟨negative, units, rfl⟩
    | _ => cases finite

end Operand

/-! ## Texts of stored doubles -/

namespace Binary64

theorem mem_positional (digits : List Char) (places : Int) : '.' ∈ positional digits places := by
  unfold positional
  split
  · simp
  · dsimp only
    split <;> simp

/-- An exponent is written with its sign. -/
theorem mem_exponential (digits : List Char) (e : Int) :
    ∃ c ∈ exponential digits e, c ∈ ['-', '+'] := by
  have sign : ∃ c ∈ exponentText e, c ∈ ['-', '+'] := by
    refine ⟨_, List.mem_cons_self, ?_⟩
    split <;> decide
  obtain ⟨c, mem, isSign⟩ := sign
  exact ⟨c, List.mem_append_right _ (List.mem_cons_of_mem _ mem), isSign⟩

/-- A finite double is written with a point or a sign. -/
theorem mem_significant (negative : Bool) (units : Nat) :
    ∃ c ∈ (significant (.finite negative units)).toList, c ∈ ['.', '-', '+'] := by
  have point : ∀ {digits places}, ∃ c ∈ positional digits places, c ∈ ['.', '-', '+'] :=
    ⟨'.', mem_positional _ _, by decide⟩
  have sign : ∀ {digits e}, ∃ c ∈ exponential digits e, c ∈ ['.', '-', '+'] := by
    intro digits e
    obtain ⟨c, mem, isSign⟩ := mem_exponential digits e
    exact ⟨c, mem, List.mem_cons_of_mem _ isSign⟩
  have signed : ∀ {negated : Prop} [Decidable negated] {body : List Char},
      (∃ c ∈ body, c ∈ ['.', '-', '+']) →
      ∃ c ∈ (if negated then '-' :: body else body), c ∈ ['.', '-', '+'] := by
    rintro negated _ body ⟨c, mem, isMark⟩
    split
    · exact ⟨c, List.mem_cons_of_mem _ mem, isMark⟩
    · exact ⟨c, mem, isMark⟩
  rw [significant, String.toList_ofList]
  generalize fifteenDigits units = found
  obtain ⟨digits, exponent⟩ := found
  refine signed ?_
  split
  · exact ⟨'.', by decide, by decide⟩
  · dsimp only
    split
    · exact point
    · split <;> exact sign

end Binary64

end QueryDesk

import QueryDesk.Proofs.Json.Shown
import QueryDesk.Proofs.Number.Grammar

/-!
# Whole numbers as operands

A text that spells a whole number, with blanks around it and in digits of any script, binds on a
column of numbers to just that number. What plain notation can tell is taken before it is bound, and
the readers of the column take the rest; neither way goes through a double.
-/

namespace QueryDesk

namespace Numeral

open Text

variable {cs digits : List Char} {n : Int}

/-- A text spells a whole number in digits of any script, with blanks around it. -/
def SpellsWithin (cs : List Char) (n : Int) : Prop :=
  Spells (plain (trim cs)) n

theorem isWord_of_digits (word : String) {c : Char} {letters : List Char}
    (begins : word.toList = c :: letters) (letter : isAsciiDigit c = false)
    (every : ∀ d ∈ digits, isAsciiDigit d = true) : isWord word digits = false := by
  rw [isWord, begins, beq_eq_false_iff_ne]
  cases digits with
  | nil => exact List.cons_ne_nil _ _ ∘ Eq.symm
  | cons d rest =>
    have digit := every d List.mem_cons_self
    have low : asciiLowerChar d = d := by
      refine if_neg fun upper => ?_
      simp only [isAsciiDigit, Bool.and_eq_true, decide_eq_true_eq] at digit upper
      omega
    rw [asciiLower, List.map_cons, low]
    rintro same
    rw [(List.cons.inj same).1, letter] at digit
    cases digit

theorem payload?_of_digits (word : String) {c : Char} {letters : List Char}
    (begins : word.toList = c :: letters) (letter : isAsciiDigit c = false)
    (every : ∀ d ∈ digits, isAsciiDigit d = true) : payload? word digits = none := by
  have start : ∀ d ∈ digits.take word.length, isAsciiDigit d = true :=
    fun d mem => every d (List.mem_of_mem_take mem)
  rw [payload?, isWord_of_digits word begins letter start]
  rfl

theorem SpellsNat.decimalLength_le {m : Nat} (run : SpellsNat digits m) :
    Binary64.decimalLength m ≤ digits.length := by
  have below : m < 10 ^ digits.length := by
    rw [← run.value, ← natOfDigits_eq]
    exact natOfDigits_lt (List.all_eq_true.mpr run.every) (Nat.le_refl _)
  have positive : 0 < digits.length := List.length_pos_iff.mpr run.nonempty
  exact (Nat.length_toDigits_le_iff (by decide) positive).mpr below

theorem SpellsNat.make? {m : Nat} (run : SpellsNat digits m) (negative : Bool) :
    Decimal.make? negative m 0 = some (.finite negative m 0) := by
  have short : Binary64.decimalLength m ≤ 4300 := Nat.le_trans run.decimalLength_le run.short
  rw [Decimal.make?, if_pos]
  unfold Decimal.minExponent Decimal.maxAdjusted
  split <;> omega

/-- A numeral whose plain form is a spelling is read as a decimal number without places. -/
theorem readDecimal?_of_plain (spells : Spells (plain cs) n) :
    ∃ negative m, readDecimal? cs = some (.finite negative m 0) ∧ signed negative m = n := by
  obtain ⟨negative, digits, m, sign, run, value⟩ := spells.takeSign
  have kept : (plain cs).filter (· ≠ '_') = plain cs := by
    rw [List.filter_eq_self]
    intro c mem
    have code := toNat_of_isSpelling (spells.all_isSpelling c mem)
    suffices c ≠ '_' by simpa using this
    rintro rfl
    exact absurd code (by decide)
  refine ⟨negative, m, ?_, value⟩
  rw [readDecimal?, kept, sign]
  simp only [isWord_of_digits "inf" rfl rfl run.every,
    isWord_of_digits "infinity" rfl rfl run.every,
    payload?_of_digits "nan" rfl rfl run.every,
    payload?_of_digits "snan" rfl rfl run.every, scientific?_of_spellsNat run,
    Option.bind_some, run.make?, Bool.or_self, Bool.false_eq_true, if_false]

end Numeral

open Numeral

variable {s : String} {n : Int}

/-- A value is a whole number, exactly and not as a double. -/
inductive Value.IsWhole (n : Int) : Value → Prop
  | int : IsWhole n (.int n)
  | decimal {negative coefficient} (value : signed negative coefficient = n) :
      IsWhole n (.decimal (.finite negative coefficient 0))

namespace Operand

/-- A text that spells a whole number stands for it, or for itself where its digits are of another
    script or its number is beyond all doubles. -/
theorem ofText_of_spellsWithin (spells : SpellsWithin s.toList n) :
    ofText s = .int n ∨ ofText s = .text s := by
  by_cases grammar : PlainNotation (Text.trim s.toList)
  · have same : ∀ c ∈ Text.trim s.toList, plainDigit c = c :=
      fun c mem => if_pos (grammar.ascii c mem).1
    rw [SpellsWithin, plain_trim, List.map_congr_left same, List.map_id'] at spells
    exact ofText_of_trim_spells spells
  · exact .inr (ofText_of_not_plain grammar)

end Operand

/-- On a column of numbers a text that spells a whole number is bound to it, however large. -/
theorem Binding.bind_of_spellsWithin (spells : SpellsWithin s.toList n) {kind : ColumnKind}
    (numeric : kind = .whole ∨ kind = .decimal) :
    ∃ operand, bind kind (Operand.ofText s) = .ok (some operand) ∧ operand.IsWhole n := by
  rcases Operand.ofText_of_spellsWithin spells with number | kept
  · refine ⟨.int n, ?_, .int⟩
    rw [number]
    rcases numeric with rfl | rfl <;> rfl
  · rw [kept]
    rcases numeric with rfl | rfl
    · have read : bind .whole (.text s) =
          .ok ((readInt? (Text.trim s.toList)).map .int) := rfl
      refine ⟨.int n, ?_, .int⟩
      rw [read, readInt?_of_plain spells]
      rfl
    · have read : bind .decimal (.text s) = .ok ((readDecimal? (Text.trim s.toList)).bind fun d =>
          if d.isFinite then some (.decimal d) else none) := rfl
      obtain ⟨negative, m, number, value⟩ := readDecimal?_of_plain spells
      refine ⟨.decimal (.finite negative m 0), ?_, .decimal value⟩
      rw [read, number]
      rfl

namespace Numeral

open Text

theorem mem_trim_or_isBlank {cs : List Char} {c : Char} (mem : c ∈ cs) :
    c ∈ trim cs ∨ isBlank c = true := by
  have kept : ∀ {ds : List Char}, c ∈ ds → c ∈ ds.dropWhile isBlank ∨ isBlank c = true := by
    intro ds mem
    rw [← List.takeWhile_append_dropWhile (p := isBlank) (l := ds)] at mem
    exact (List.mem_append.mp mem).symm.imp_right List.mem_takeWhile_imp
  rcases kept mem with mem | blank
  · rw [trim, dropWhileEnd, List.mem_reverse]
    exact kept (List.mem_reverse.mpr mem)
  · exact .inr blank

/-- Nothing stands in a spelled whole number but blanks, signs, ASCII digits and characters beyond
    ASCII. -/
theorem SpellsWithin.mem_cases {cs : List Char} {c : Char} (spells : SpellsWithin cs n)
    (mem : c ∈ cs) : isBlank c = true ∨ isSpelling c = true ∨ 128 ≤ c.toNat := by
  rcases mem_trim_or_isBlank mem with within | blank
  · by_cases ascii : c.toNat < 128
    · have same : plainDigit c = c := if_pos ascii
      refine .inr (.inl (spells.all_isSpelling c ?_))
      rw [plain_trim]
      exact List.mem_map.mpr ⟨c, within, same⟩
    · exact .inr (.inr (Nat.le_of_not_lt ascii))
  · exact .inl blank

/-- No symbol of a filter stands in a spelled whole number. -/
theorem SpellsWithin.unmarked {cs : List Char} (spells : SpellsWithin cs n) :
    ∀ c ∈ ['%', '|', '>', '<', '!', '='], c ∉ cs := by
  intro c mark mem
  simp only [List.mem_cons, List.not_mem_nil, or_false] at mark
  rcases mark with rfl | rfl | rfl | rfl | rfl | rfl <;>
    exact absurd (spells.mem_cases mem) (by decide)

end Numeral

end QueryDesk

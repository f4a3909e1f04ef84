import Mathlib.Data.List.TakeDrop
import Mathlib.Data.List.TakeWhile
import QueryDesk.Plan.Binding
import QueryDesk.Proofs.Text.Trim
import QueryDesk.Query.Operand

/-!
# Spellings of whole numbers

A whole number is spelled as decimal digits, leading zeros allowed, after an optional sign. Its
spelling is read back as the number, both as a numeral and as an operand.
-/

namespace QueryDesk.Numeral

open Text

/-! ## Runs of digits -/

theorem natOfDigits_eq (digits : List Char) : natOfDigits digits = Nat.ofDigitChars 10 digits 0 := by
  have same : (fun (n : Nat) (c : Char) => n * 10 + asciiDigitValue c) =
      fun n c => 10 * n + (c.toNat - '0'.toNat) := by
    funext n c
    rw [Nat.mul_comm]
    rfl
  rw [natOfDigits, same, Nat.ofDigitChars_eq_foldl]

theorem isAsciiDigit_of_mem_toDigits {n : Nat} {c : Char} (mem : c ∈ Nat.toDigits 10 n) :
    isAsciiDigit c = true := by
  have digit := Nat.isDigit_of_mem_toDigits (by decide) (by decide) mem
  simpa [Char.isDigit, isAsciiDigit, UInt32.le_iff_toNat_le] using digit

theorem natOfDigits_toDigits (n : Nat) : natOfDigits (Nat.toDigits 10 n) = n := by
  rw [natOfDigits_eq, Nat.ofDigitChars_ten_toDigits]

theorem length_toDigits_le {n : Nat} (fits : (n : Int) ≤ 0x8000000000000000) :
    (Nat.toDigits 10 n).length ≤ maxDigits := by
  have short : (Nat.toDigits 10 n).length ≤ 19 := by
    rw [Nat.length_toDigits_le_iff (by decide) (by decide)]
    omega
  exact Nat.le_trans short (by decide)

/-- Numbers of few digits are among those of more. The width is a variable here, so that its power is
    never formed. -/
theorem lt_pow_of_lt {n k : Nat} (width : Nat) (small : n < Nat.pow 10 k) (wide : k ≤ width) :
    n < Nat.pow 10 width := by
  have enough : Nat.pow 10 k ≤ Nat.pow 10 width := Nat.pow_le_pow_right (by decide) wide
  exact Nat.lt_of_lt_of_le small enough

variable {digits : List Char}

theorem takeSign_eq_self {cs : List Char} (noMinus : '-' ∉ cs) (noPlus : '+' ∉ cs) :
    takeSign cs = (false, cs) := by
  unfold takeSign
  split
  · exact absurd List.mem_cons_self noMinus
  · exact absurd List.mem_cons_self noPlus
  · rfl

theorem takeSign_of_digits (every : ∀ c ∈ digits, isAsciiDigit c = true) :
    takeSign digits = (false, digits) :=
  takeSign_eq_self (fun mem => absurd (every '-' mem) (by decide))
    fun mem => absurd (every '+' mem) (by decide)

/-- ASCII characters that are no blanks are read as they are. -/
theorem plain_eq_self {cs : List Char} (every : ∀ c ∈ cs, c.toNat < 128 ∧ isBlank c = false) :
    plain cs = cs := by
  have bare : IsBare isMargin cs := isBare_of_forall fun c mem => by
    rw [isMargin, (every c mem).2, Bool.false_and]
  have same : ∀ c ∈ cs, plainDigit c = c := fun c mem => if_pos (every c mem).1
  rw [plain, dropEnds_eq_self bare, List.map_congr_left same, List.map_id']

/-! ## Spellings -/

/-- A run of digits spells a natural number; it has at most `maxDigits` digits. -/
structure SpellsNat (digits : List Char) (n : Nat) : Prop where
  nonempty : digits ≠ []
  every : ∀ c ∈ digits, isAsciiDigit c = true
  short : digits.length ≤ maxDigits
  value : Nat.ofDigitChars 10 digits 0 = n

/-- A text spells a whole number: digits after an optional sign. -/
inductive Spells : List Char → Int → Prop
  | unsigned {digits n} (spells : SpellsNat digits n) : Spells digits n
  | plus {digits n} (spells : SpellsNat digits n) : Spells ('+' :: digits) n
  | minus {digits n} (spells : SpellsNat digits n) : Spells ('-' :: digits) (-n)

/-- A character that can stand in a spelling. -/
def isSpelling (c : Char) : Bool :=
  isAsciiDigit c || c == '+' || c == '-'

variable {cs : List Char} {n : Int}

theorem Spells.all_isSpelling (spells : Spells cs n) : ∀ c ∈ cs, isSpelling c = true := by
  have digit : ∀ {digits m}, SpellsNat digits m → ∀ c ∈ digits, isSpelling c = true := by
    intro digits m run c mem
    simp [isSpelling, run.every c mem]
  cases spells with
  | unsigned run => exact digit run
  | plus run => exact List.forall_mem_cons.mpr ⟨rfl, digit run⟩
  | minus run => exact List.forall_mem_cons.mpr ⟨rfl, digit run⟩

theorem Spells.takeSign (spells : Spells cs n) :
    ∃ negative digits m, Numeral.takeSign cs = (negative, digits) ∧ SpellsNat digits m ∧
      signed negative m = n := by
  cases spells with
  | unsigned run => exact ⟨false, _, _, takeSign_of_digits run.every, run, rfl⟩
  | plus run => exact ⟨false, _, _, rfl, run, rfl⟩
  | minus run => exact ⟨true, _, _, rfl, run, rfl⟩

/-- No character of a spelling is a blank, a separator or a symbol. -/
theorem toNat_of_isSpelling {c : Char} (spelling : isSpelling c = true) :
    (48 ≤ c.toNat ∧ c.toNat ≤ 57) ∨ c.toNat = 43 ∨ c.toNat = 45 := by
  simp only [isSpelling, isAsciiDigit, Bool.or_eq_true, Bool.and_eq_true, decide_eq_true_eq,
    beq_iff_eq] at spelling
  rcases spelling with (digit | rfl) | rfl
  · exact .inl digit
  · exact .inr (.inl rfl)
  · exact .inr (.inr rfl)

theorem isBlank_of_isSpelling {c : Char} (spelling : isSpelling c = true) : isBlank c = false := by
  have code := toNat_of_isSpelling spelling
  exact isBlank_of_ascii (by omega) (by omega)

theorem trim_of_isSpelling (every : ∀ c ∈ cs, isSpelling c = true) : trim cs = cs :=
  trim_eq_self (isBare_of_forall fun c mem => isBlank_of_isSpelling (every c mem))

theorem plain_of_isSpelling (every : ∀ c ∈ cs, isSpelling c = true) : plain cs = cs := by
  refine plain_eq_self fun c mem => ⟨?_, isBlank_of_isSpelling (every c mem)⟩
  have code := toNat_of_isSpelling (every c mem)
  omega

theorem withoutSeparators?_of_isSpelling (every : ∀ c ∈ cs, isSpelling c = true) (after : Bool) :
    withoutSeparators? after cs = some cs := by
  induction cs generalizing after with
  | nil => rfl
  | cons c rest ih =>
    obtain ⟨first, others⟩ := List.forall_mem_cons.mp every
    have digit : c ≠ '_' := by
      rintro rfl
      cases first
    rw [withoutSeparators?, if_neg digit, ih others]
    rfl

theorem digits?_of_spellsNat {m : Nat} (run : SpellsNat digits m) : digits? digits = some digits := by
  have nonempty : digits.isEmpty = false := by simpa using run.nonempty
  have every : digits.all isAsciiDigit = true := List.all_eq_true.mpr run.every
  rw [digits?, nonempty, every]
  rfl

/-- A numeral whose plain form is a spelling is read as its number. -/
theorem readInt?_of_plain (spells : Spells (plain cs) n) : Numeral.readInt? cs = some n := by
  obtain ⟨negative, digits, m, sign, run, value⟩ := spells.takeSign
  have chars := spells.all_isSpelling
  simp only [Numeral.readInt?, withoutSeparators?_of_isSpelling chars, Option.bind_eq_bind,
    Option.bind_some, sign, digits?_of_spellsNat run, run.short, if_true, natOfDigits_eq, run.value,
    value]

/-- A spelling is read as its number. -/
theorem Spells.readInt? (spells : Spells cs n) : Numeral.readInt? cs = some n :=
  readInt?_of_plain (by rwa [plain_of_isSpelling spells.all_isSpelling])

theorem scientific?_of_spellsNat {m : Nat} (run : SpellsNat digits m) :
    scientific? digits = some ⟨m, 0⟩ := by
  have all : digits.span isAsciiDigit = (digits, []) := by
    rw [List.span_eq_takeWhile_dropWhile, List.takeWhile_eq_self_iff.mpr run.every,
      List.dropWhile_eq_nil_iff.mpr run.every]
  have nonempty : digits.isEmpty = false := by simpa using run.nonempty
  have exponent : exponentPart? [] = some 0 := rfl
  rw [scientific?, all]
  simp [takeFraction, nonempty, exponent, natOfDigits_eq, run.value]

end QueryDesk.Numeral

namespace QueryDesk.Operand

open Numeral Text

theorem plain?_of_spells {cs : List Char} {n : Int} (spells : Spells cs n) :
    ∃ p digits, plain? cs = some p ∧ p.whole? = some digits ∧ digits.length ≤ maxDigits ∧
      signed p.negative p.number.coefficient = n := by
  obtain ⟨negative, digits, m, sign, run, value⟩ := spells.takeSign
  refine ⟨⟨negative, ⟨m, 0⟩, some digits⟩, digits, ?_, rfl, run.short, value⟩
  simp only [plain?, sign, scientific?_of_spellsNat run, Option.map_some, digits?_of_spellsNat run]

/-- A spelling with blanks around it stands for its number, or for itself where its number is beyond
    all doubles. -/
theorem ofText_of_trim_spells {s : String} {n : Int} (spells : Spells (trim s.toList) n) :
    ofText s = .int n ∨ ofText s = .text s := by
  obtain ⟨p, digits, plain, whole, short, value⟩ := plain?_of_spells spells
  rw [ofText, plain, Option.bind_some, number?, whole]
  simp only [short, if_true, value]
  split
  · exact .inr rfl
  · exact .inl rfl

theorem ofText_of_spells {s : String} {n : Int} (spells : Spells s.toList n) :
    ofText s = .int n ∨ ofText s = .text s :=
  ofText_of_trim_spells (by rwa [trim_of_isSpelling spells.all_isSpelling])

end QueryDesk.Operand

namespace QueryDesk.Binding

/-- On a column of whole numbers a spelling is its number, however large. -/
theorem bind_whole_of_spells {s : String} {n : Int} (spells : Numeral.Spells s.toList n) :
    bind .whole (Operand.ofText s) = .ok (some (.int n)) := by
  rcases Operand.ofText_of_spells spells with number | text
  · rw [number]
    rfl
  · have read : bind .whole (.text s) =
        .ok ((Numeral.readInt? (Text.trim s.toList)).map .int) := rfl
    rw [text, read, Numeral.trim_of_isSpelling spells.all_isSpelling, spells.readInt?]
    rfl

end QueryDesk.Binding

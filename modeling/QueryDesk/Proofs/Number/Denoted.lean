import Mathlib.Algebra.Order.AbsoluteValue.Basic
import Mathlib.Tactic.FieldSimp
import Mathlib.Tactic.NormNum
import QueryDesk.Proofs.Number.Grammar
import QueryDesk.Proofs.Number.Overflow

/-!
# The numbers that plain notation denotes

A text in plain decimal notation denotes one rational number. As an operand it stands for that
number, as a whole number or as a double, unless the number is infinite as a double.
-/

namespace QueryDesk

namespace Numeral

open Text

/-! ## The grammar with its values -/

/-- A sign and its factor. -/
inductive SignOf : List Char → ℤ → Prop
  | absent : SignOf [] 1
  | plus : SignOf ['+'] 1
  | minus : SignOf ['-'] (-1)

/-- Digits with an optional point and their value. -/
inductive MantissaOf : List Char → ℚ → Prop
  | whole {ds} (digits : IsDigits ds) (nonempty : ds ≠ []) :
      MantissaOf ds (Nat.ofDigitChars 10 ds 0)
  | pointed {ds fs} (digits : IsDigits ds) (fraction : IsDigits fs) (nonempty : ds ++ fs ≠ []) :
      MantissaOf (ds ++ '.' :: fs)
        (Nat.ofDigitChars 10 ds 0 + Nat.ofDigitChars 10 fs 0 / 10 ^ fs.length)

/-- An exponent and its value; nothing at all counts as zero. -/
inductive ExponentOf : List Char → ℤ → Prop
  | absent : ExponentOf [] 0
  | present {letter sign s ds} (isLetter : letter = 'e' ∨ letter = 'E') (signed : SignOf sign s)
      (digits : IsDigits ds) (nonempty : ds ≠ []) :
      ExponentOf (letter :: (sign ++ ds)) (s * Nat.ofDigitChars 10 ds 0)

/-- Plain decimal notation and the number that it denotes. -/
inductive Denotes : List Char → ℚ → Prop
  | mk {sign s mantissa x exponent e} (signed : SignOf sign s) (isMantissa : MantissaOf mantissa x)
      (isExponent : ExponentOf exponent e) :
      Denotes (sign ++ (mantissa ++ exponent)) (s * x * 10 ^ e)

/-- A text without point and exponent letter. -/
def IsUnmarked (cs : List Char) : Prop :=
  '.' ∉ cs ∧ 'e' ∉ cs ∧ 'E' ∉ cs

variable {cs ds : List Char} {v : ℚ}

theorem SignOf.isSign {sign : List Char} {s : ℤ} (signed : SignOf sign s) : IsSign sign := by
  cases signed with
  | absent => exact .inl rfl
  | plus => exact .inr (.inl rfl)
  | minus => exact .inr (.inr rfl)

theorem SignOf.signed_eq {sign : List Char} {s : ℤ} (isSign : SignOf sign s) (n : Nat) :
    signed (decide (sign = ['-'])) n = s * n := by
  cases isSign <;> simp [signed]

theorem IsSign.mem {sign : List Char} {c : Char} (isSign : IsSign sign) (mem : c ∈ sign) :
    c = '+' ∨ c = '-' := by
  rcases isSign with rfl | rfl | rfl
  · cases mem
  · exact .inl (List.mem_singleton.mp mem)
  · exact .inr (List.mem_singleton.mp mem)

theorem IsSign.exists_factor {sign : List Char} (isSign : IsSign sign) : ∃ s, SignOf sign s := by
  rcases isSign with rfl | rfl | rfl
  · exact ⟨1, .absent⟩
  · exact ⟨1, .plus⟩
  · exact ⟨-1, .minus⟩

theorem MantissaOf.isMantissa {mantissa : List Char} {x : ℚ} (valued : MantissaOf mantissa x) :
    Mantissa mantissa := by
  cases valued with
  | whole digits nonempty => exact .whole digits nonempty
  | pointed digits fraction nonempty => exact .pointed digits fraction nonempty

theorem Mantissa.exists_value {mantissa : List Char} (isMantissa : Mantissa mantissa) :
    ∃ x, MantissaOf mantissa x := by
  cases isMantissa with
  | whole digits nonempty => exact ⟨_, .whole digits nonempty⟩
  | pointed digits fraction nonempty => exact ⟨_, .pointed digits fraction nonempty⟩

theorem ExponentPart.exists_value {exponent : List Char} (isExponent : ExponentPart exponent) :
    ∃ e, ExponentOf exponent e := by
  cases isExponent with
  | absent => exact ⟨_, .absent⟩
  | present isLetter signed digits nonempty =>
    obtain ⟨s, signed⟩ := signed.exists_factor
    exact ⟨_, .present isLetter signed digits nonempty⟩

theorem ExponentOf.isExponent {exponent : List Char} {e : ℤ} (valued : ExponentOf exponent e) :
    ExponentPart exponent ∧ exponentPart? exponent = some e := by
  cases valued with
  | absent => exact ⟨.absent, rfl⟩
  | present isLetter signed digits nonempty =>
    refine ⟨.present isLetter signed.isSign digits nonempty, ?_⟩
    rw [exponentPart?_of_parts isLetter signed.isSign digits nonempty, signed.signed_eq,
      natOfDigits_eq]

/-! ## Runs of digits -/

/-- A run of digits has neither point nor exponent. -/
theorem IsDigits.isUnmarked (digits : IsDigits ds) : IsUnmarked ds := by
  have absent (c : Char) (noDigit : isAsciiDigit c = false) : c ∉ ds :=
    fun mem => Bool.false_ne_true (noDigit.symm.trans (digits c mem))
  exact ⟨absent '.' (by decide), absent 'e' (by decide), absent 'E' (by decide)⟩

theorem isDigits_toDigits (n : Nat) : IsDigits (Nat.toDigits 10 n) :=
  fun _ => isAsciiDigit_of_mem_toDigits

theorem trim_toString (n : Nat) : trim (toString n).toList = Nat.toDigits 10 n := by
  have written : (toString n).toList = Nat.toDigits 10 n := Nat.toList_repr
  rw [written]
  refine trim_of_isSpelling fun c mem => ?_
  rw [isSpelling, isDigits_toDigits n c mem]
  rfl

/-- A number is what its own text denotes. -/
theorem denotes_toString (n : Nat) : Denotes (trim (toString n).toList) n := by
  have denotes := Denotes.mk .absent (.whole (isDigits_toDigits n) Nat.toDigits_ne_nil) .absent
  rw [Nat.ofDigitChars_ten_toDigits, Int.cast_one, one_mul, zpow_zero, mul_one, List.append_nil,
    List.nil_append] at denotes
  rwa [trim_toString]

/-! ## Values in reading -/

/-- The reader keeps the value: the point is made up for by the exponent. -/
theorem scientific?_of_mantissa {mantissa exponent : List Char} {x : ℚ} {e : ℤ}
    (isMantissa : MantissaOf mantissa x) (isExponent : ExponentOf exponent e) :
    ∃ n, scientific? (mantissa ++ exponent) = some n ∧
      x * 10 ^ e = n.coefficient * 10 ^ n.exponent := by
  obtain ⟨part, read⟩ := isExponent.isExponent
  cases isMantissa with
  | whole digits nonempty =>
    refine ⟨⟨natOfDigits mantissa, e⟩, ?_, ?_⟩
    · rw [scientific?_of_whole digits nonempty part, read, Option.map_some]
    · rw [natOfDigits_eq]
  | @pointed ds fs digits fraction nonempty =>
    have joined : natOfDigits (ds ++ fs) =
        10 ^ fs.length * Nat.ofDigitChars 10 ds 0 + Nat.ofDigitChars 10 fs 0 := by
      rw [natOfDigits_eq, Nat.ofDigitChars_append, Nat.ofDigitChars_eq_ofDigitChars_zero]
    refine ⟨⟨natOfDigits (ds ++ fs), e - fs.length⟩, ?_, ?_⟩
    · rw [scientific?_of_pointed digits fraction nonempty part, read, Option.map_some]
    · rw [joined, zpow_sub₀ (by norm_num), zpow_natCast]
      push_cast
      field_simp

theorem Denotes.plainNotation (denotes : Denotes cs v) : PlainNotation cs := by
  cases denotes with
  | mk signed isMantissa isExponent =>
    exact .mk signed.isSign isMantissa.isMantissa isExponent.isExponent.1

theorem PlainNotation.exists_value (grammar : PlainNotation cs) : ∃ v, Denotes cs v := by
  cases grammar with
  | mk signed isMantissa isExponent =>
    obtain ⟨s, signed⟩ := signed.exists_factor
    obtain ⟨x, isMantissa⟩ := isMantissa.exists_value
    obtain ⟨e, isExponent⟩ := isExponent.exists_value
    exact ⟨_, .mk signed isMantissa isExponent⟩

end Numeral

namespace Operand

open Numeral

variable {cs ds : List Char} {p : Plain} {v w : ℚ}

/-- The number that was read. -/
def Plain.value (p : Plain) : ℚ :=
  signed p.negative p.number.coefficient * 10 ^ p.number.exponent

/-! ## Reading plain notation -/

theorem plain?_of_denotes (denotes : Denotes cs v) :
    ∃ p, plain? cs = some p ∧ p.value = v := by
  cases denotes with
  | @mk sign s mantissa x exponent e isSign isMantissa isExponent =>
    obtain ⟨n, read, same⟩ := scientific?_of_mantissa isMantissa isExponent
    have rest : takeSign (sign ++ (mantissa ++ exponent)) =
        (decide (sign = ['-']), mantissa ++ exponent) :=
      takeSign_append isSign.isSign fun c => isMantissa.isMantissa.head?
    refine ⟨⟨decide (sign = ['-']), n, digits? (mantissa ++ exponent)⟩, ?_, ?_⟩
    · rw [plain?, rest]
      dsimp only
      rw [read, Option.map_some]
    · rw [Plain.value, isSign.signed_eq, mul_assoc, same]
      push_cast
      ring

theorem denotes_unique (one : Denotes cs v) (other : Denotes cs w) : v = w := by
  obtain ⟨p, read, rfl⟩ := plain?_of_denotes one
  obtain ⟨q, again, rfl⟩ := plain?_of_denotes other
  rw [Option.some.inj (read.symm.trans again)]

/-- A text in plain notation denotes one number, and no other text denotes any. -/
theorem plainNotation_iff : PlainNotation cs ↔ ∃! v, Denotes cs v := by
  constructor
  · intro grammar
    obtain ⟨v, denotes⟩ := grammar.exists_value
    exact ⟨v, denotes, fun w again => denotes_unique again denotes⟩
  · rintro ⟨v, denotes, -⟩
    exact denotes.plainNotation

theorem parts_of_plain? (read : plain? cs = some p) :
    scientific? (takeSign cs).2 = some p.number ∧ p.whole? = digits? (takeSign cs).2 := by
  obtain ⟨n, number, rfl⟩ := Option.map_eq_some_iff.mp read
  exact ⟨number, rfl⟩

/-- What is read as a whole number is all the digits of a text without point and exponent. -/
theorem unmarked_of_whole? (read : plain? cs = some p) (whole : p.whole? = some ds) :
    IsUnmarked cs ∧ cs.countP Text.isAsciiDigit = ds.length ∧ p.number.exponent = 0 := by
  obtain ⟨number, run⟩ := parts_of_plain? read
  obtain ⟨rfl, nonempty, digits⟩ := digits?_eq_some_iff.mp (run.symm.trans whole)
  obtain ⟨sign, isSign, split⟩ := exists_sign cs
  have absent : ∀ c, c ∉ (takeSign cs).2 → c ≠ '+' ∧ c ≠ '-' → c ∉ cs := by
    intro c noDigit noSign mem
    rw [split] at mem
    rcases List.mem_append.mp mem with inSign | inDigits
    · exact (isSign.mem inSign).elim noSign.1 noSign.2
    · exact noDigit inDigits
  obtain ⟨noPoint, noSmall, noLarge⟩ := digits.isUnmarked
  refine ⟨⟨?_, ?_, ?_⟩, ?_, ?_⟩
  · exact absent '.' noPoint (by decide)
  · exact absent 'e' noSmall (by decide)
  · exact absent 'E' noLarge (by decide)
  · have unsigned : sign.countP Text.isAsciiDigit = 0 := by
      rcases isSign with rfl | rfl | rfl <;> rfl
    have every : (takeSign cs).2.countP Text.isAsciiDigit = (takeSign cs).2.length :=
      List.countP_eq_length.mpr digits
    -- The text is also part of the right side, which is to stay as it is.
    conv_lhs => rw [split, List.countP_append, unsigned, every, Nat.zero_add]
  · have unscaled := scientific?_of_whole digits nonempty .absent
    rw [List.append_nil, number] at unscaled
    rw [Option.some.inj unscaled]

theorem whole?_of_unmarked (read : plain? cs = some p) (unmarked : IsUnmarked cs) :
    ∃ ds, p.whole? = some ds := by
  obtain ⟨noPoint, noSmall, noLarge⟩ := unmarked
  have grammar : PlainNotation cs := plain?_isSome_iff.mp (by rw [read]; rfl)
  rw [(parts_of_plain? read).2]
  cases grammar with
  | mk isSign isMantissa isExponent =>
    cases isMantissa with
    | pointed digits fraction nonempty => simp at noPoint
    | whole digits nonempty =>
      cases isExponent with
      | absent =>
        rw [List.append_nil, takeSign_append isSign digits.unsigned]
        exact ⟨_, digits?_eq_some_iff.mpr ⟨rfl, nonempty, digits⟩⟩
      | present isLetter =>
        rcases isLetter with rfl | rfl
        · simp at noSmall
        · simp at noLarge

/-! ## Operands -/

theorem abs_value (p : Plain) : |p.value| = p.number.coefficient * 10 ^ p.number.exponent := by
  have magnitude : |((signed p.negative p.number.coefficient : ℤ) : ℚ)| = p.number.coefficient := by
    unfold signed
    split <;> simp
  rw [Plain.value, abs_mul, magnitude, abs_of_pos (by positivity)]

theorem isFinite_iff (p : Plain) :
    (Binary64.ofScientific p.negative p.number.coefficient p.number.exponent).isFinite = true ↔
      |p.value| < Binary64.border := by
  rw [abs_value]
  exact Binary64.isFinite_ofScientific_iff _ _ _

theorem number?_of_large (large : (Binary64.border : ℚ) ≤ |p.value|) : number? p = none := by
  have infinite := (isFinite_iff p).not.mpr (not_lt.mpr large)
  simp [number?, infinite]

theorem number?_of_whole (below : |p.value| < Binary64.border) (whole : p.whole? = some ds)
    (short : ds.length ≤ maxDigits) :
    number? p = some (.int (signed p.negative p.number.coefficient)) := by
  simp [number?, (isFinite_iff p).mpr below, whole, short]

theorem number?_otherwise (below : |p.value| < Binary64.border)
    (other : ∀ ds, p.whole? = some ds → ¬ ds.length ≤ maxDigits) :
    ∃ negative units, number? p = some (.float (.finite negative units)) := by
  have finite := (isFinite_iff p).mpr below
  cases nearest : Binary64.ofScientific p.negative p.number.coefficient p.number.exponent with
  | finite negative units =>
    refine ⟨negative, units, ?_⟩
    cases whole : p.whole? with
    | none => simp [number?, nearest, whole, Binary64.isFinite]
    | some ds => simp [number?, nearest, whole, other ds whole, Binary64.isFinite]
  | infinite _ | nan =>
    rw [nearest] at finite
    cases finite

/-- What the text `s` stands for if `cs` is what trimming leaves of it and denotes `v`. -/
inductive StandsFor (s : String) (cs : List Char) (v : ℚ) : Value → Prop
  | text (large : Binary64.border ≤ |v|) : StandsFor s cs v (.text s)
  | int {n : ℤ} (below : |v| < Binary64.border) (unmarked : IsUnmarked cs)
      (short : cs.countP Text.isAsciiDigit ≤ maxDigits) (same : n = v) : StandsFor s cs v (.int n)
  | float {negative units} (below : |v| < Binary64.border)
      (other : ¬ (IsUnmarked cs ∧ cs.countP Text.isAsciiDigit ≤ maxDigits)) :
      StandsFor s cs v (.float (.finite negative units))

theorem ofText_of_denotes {s : String} (denotes : Denotes (Text.trim s.toList) v) :
    StandsFor s (Text.trim s.toList) v (ofText s) := by
  obtain ⟨p, read, rfl⟩ := plain?_of_denotes denotes
  have outcome : ofText s = (number? p).getD (.text s) := by
    rw [ofText, read]
    rfl
  rw [outcome]
  rcases le_or_gt (Binary64.border : ℚ) |p.value| with large | below
  · rw [number?_of_large large]
    exact .text large
  by_cases whole : ∃ ds, p.whole? = some ds ∧ ds.length ≤ maxDigits
  · obtain ⟨ds, whole, short⟩ := whole
    obtain ⟨unmarked, count, exponent⟩ := unmarked_of_whole? read whole
    rw [number?_of_whole below whole short]
    refine .int below unmarked (count ▸ short) ?_
    rw [Plain.value, exponent, zpow_zero, mul_one]
  · obtain ⟨negative, units, nearest⟩ :=
      number?_otherwise below fun ds run short => whole ⟨ds, run, short⟩
    rw [nearest]
    refine .float below ?_
    rintro ⟨unmarked, short⟩
    obtain ⟨ds, run⟩ := whole?_of_unmarked read unmarked
    exact whole ⟨ds, run, (unmarked_of_whole? read run).2.1 ▸ short⟩

/-- A text stands for itself unless it denotes a number that is finite as a double. It stands for a
    whole number if it is written as one in few enough digits, and otherwise for a double. -/
theorem ofText_by_grammar (s : String) :
    (ofText s = .text s ↔ ¬ PlainNotation (Text.trim s.toList) ∨
      ∃ v, Denotes (Text.trim s.toList) v ∧ Binary64.border ≤ |v|) ∧
    ∀ v, Denotes (Text.trim s.toList) v → |v| < Binary64.border →
      ((∃ n, ofText s = .int n) ↔ IsUnmarked (Text.trim s.toList) ∧
        (Text.trim s.toList).countP Text.isAsciiDigit ≤ maxDigits) ∧
      (∀ n, ofText s = .int n → n = v) ∧
      ((¬ ∃ n, ofText s = .int n) →
        ∃ negative units, ofText s = .float (.finite negative units)) := by
  constructor
  · constructor
    · intro unread
      by_cases grammar : PlainNotation (Text.trim s.toList)
      · obtain ⟨v, denotes, -⟩ := plainNotation_iff.mp grammar
        have stands := ofText_of_denotes denotes
        rw [unread] at stands
        cases stands with
        | text large => exact .inr ⟨v, denotes, large⟩
      · exact .inl grammar
    · rintro (other | ⟨v, denotes, large⟩)
      · exact ofText_of_not_plain other
      · have stands := ofText_of_denotes denotes
        generalize ofText s = outcome at stands ⊢
        cases stands with
        | text => rfl
        | int below | float below => exact absurd below (not_lt.mpr large)
  · intro v denotes below
    have stands := ofText_of_denotes denotes
    generalize ofText s = outcome at stands ⊢
    cases stands with
    | text large => exact absurd below (not_lt.mpr large)
    | @int n _ unmarked short same =>
      refine ⟨iff_of_true ⟨n, rfl⟩ ⟨unmarked, short⟩, ?_, fun none => absurd ⟨n, rfl⟩ none⟩
      rintro m ⟨⟩
      exact same
    | @float negative units _ other =>
      refine ⟨iff_of_false ?_ other, ?_, fun _ => ⟨negative, units, rfl⟩⟩
      · rintro ⟨n, ⟨⟩⟩
      · rintro n ⟨⟩

/-- The last whole number below the border is read, the border is not, and a fraction is read as a
    double. -/
theorem border_and_fraction_read :
    ofText (toString (Binary64.border - 1)) = .int (Binary64.border - 1 : Nat) ∧
      ofText (toString Binary64.border) = .text (toString Binary64.border) ∧
      ∃ negative units, ofText " .5\n" = .float (.finite negative units) := by
  refine ⟨?_, ?_, ?_⟩
  · generalize last : Binary64.border - 1 = n
    have less : n < Binary64.border := last ▸ Nat.sub_lt Binary64.border_pos Nat.one_pos
    have below : |(n : ℚ)| < Binary64.border := by
      rw [Nat.abs_cast]
      exact_mod_cast less
    have short : (Nat.toDigits 10 n).length ≤ maxDigits :=
      (Nat.length_toDigits_le_iff (by decide) (by decide)).mpr
        (Nat.lt_of_lt_of_le less (Binary64.border_le (by decide)))
    obtain ⟨spelled, same, -⟩ := (ofText_by_grammar (toString n)).2 n (denotes_toString n) below
    rw [trim_toString, List.countP_eq_length.mpr (isDigits_toDigits n)] at spelled
    obtain ⟨m, read⟩ := spelled.mpr ⟨(isDigits_toDigits n).isUnmarked, short⟩
    have value : m = n := by exact_mod_cast same m read
    rw [read, value]
  · exact (ofText_by_grammar (toString Binary64.border)).1.mpr
      (.inr ⟨_, denotes_toString _, le_abs_self _⟩)
  · have half : Denotes (Text.trim " .5\n".toList) (1 / 2) := by
      have none : IsDigits [] := List.forall_mem_nil _
      have five : IsDigits ['5'] := List.all_eq_true.mp rfl
      have denotes := Denotes.mk .absent (.pointed none five (by decide)) .absent
      have value : Nat.ofDigitChars 10 ['5'] 0 = 5 := by decide
      norm_num [value] at denotes
      exact denotes
    have below : |(1 / 2 : ℚ)| < Binary64.border :=
      lt_of_lt_of_le (abs_lt.mpr (by norm_num)) Binary64.one_le_border
    obtain ⟨spelled, -, float⟩ := (ofText_by_grammar " .5\n").2 _ half below
    exact float fun read => absurd (spelled.mp read).1.1 (by decide)

end Operand

end QueryDesk

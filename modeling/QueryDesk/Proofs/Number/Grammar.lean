import QueryDesk.Proofs.Number.Notation

/-!
# The grammar of plain decimal notation

Plain decimal notation is an optional sign, digits with an optional point before, among or after
them, and an optional exponent. Reading it accepts just the texts of this grammar. The readers of
numerals accept more: a numeral that is read as a finite number is in plain notation once its digits
are ASCII digits and its underscores are dropped.
-/

namespace QueryDesk.Numeral

open Text

/-- ASCII digits and nothing else. -/
def IsDigits (cs : List Char) : Prop :=
  ∀ c ∈ cs, isAsciiDigit c = true

/-- One sign or none. -/
def IsSign (cs : List Char) : Prop :=
  cs = [] ∨ cs = ['+'] ∨ cs = ['-']

/-- Digits, or digits with a point. -/
inductive Mantissa : List Char → Prop
  | whole {ds} (digits : IsDigits ds) (nonempty : ds ≠ []) : Mantissa ds
  | pointed {ds fs} (digits : IsDigits ds) (fraction : IsDigits fs) (nonempty : ds ++ fs ≠ []) :
      Mantissa (ds ++ '.' :: fs)

/-- A letter with an exponent, or nothing. -/
inductive ExponentPart : List Char → Prop
  | absent : ExponentPart []
  | present {letter sign ds} (isLetter : letter = 'e' ∨ letter = 'E') (signed : IsSign sign)
      (digits : IsDigits ds) (nonempty : ds ≠ []) : ExponentPart (letter :: (sign ++ ds))

/-- Plain decimal notation. -/
inductive PlainNotation : List Char → Prop
  | mk {sign mantissa exponent} (signed : IsSign sign) (isMantissa : Mantissa mantissa)
      (isExponent : ExponentPart exponent) : PlainNotation (sign ++ (mantissa ++ exponent))

variable {cs ds rest : List Char}

/-! ## Signs and runs of digits -/

theorem exists_sign (cs : List Char) : ∃ sign, IsSign sign ∧ cs = sign ++ (takeSign cs).2 := by
  unfold takeSign
  split
  · exact ⟨['-'], .inr (.inr rfl), rfl⟩
  · exact ⟨['+'], .inr (.inl rfl), rfl⟩
  · exact ⟨[], .inl rfl, rfl⟩

theorem takeSign_append {sign : List Char} (signed : IsSign sign)
    (unsigned : ∀ c, rest.head? = some c → c ≠ '+' ∧ c ≠ '-') :
    takeSign (sign ++ rest) = (decide (sign = ['-']), rest) := by
  rcases signed with rfl | rfl | rfl
  · rw [List.nil_append]
    unfold takeSign
    split
    · exact absurd rfl (unsigned _ rfl).2
    · exact absurd rfl (unsigned _ rfl).1
    · rfl
  · rfl
  · rfl

/-- No sign stands before a run of digits. -/
theorem IsDigits.unsigned (digits : IsDigits ds) :
    ∀ c, ds.head? = some c → c ≠ '+' ∧ c ≠ '-' := by
  intro c first
  have digit := digits c (List.mem_of_head? first)
  constructor <;> rintro rfl <;> exact absurd digit (by decide)

theorem digits?_eq_some_iff : digits? cs = some ds ↔ ds = cs ∧ cs ≠ [] ∧ IsDigits cs := by
  unfold digits? IsDigits
  by_cases run : cs ≠ [] ∧ ∀ c ∈ cs, isAsciiDigit c = true
  · have accepted : (!cs.isEmpty && cs.all isAsciiDigit) = true := by simpa using run
    rw [if_pos accepted, Option.some.injEq, eq_comm]
    exact ⟨fun same => ⟨same, run⟩, fun found => found.1⟩
  · have refused : ¬ (!cs.isEmpty && cs.all isAsciiDigit) = true := by simpa using run
    rw [if_neg refused]
    constructor
    · intro none
      cases none
    · rintro ⟨-, nonempty, every⟩
      exact absurd ⟨nonempty, every⟩ run

theorem digits?_isSome_iff : (digits? cs).isSome = true ↔ cs ≠ [] ∧ IsDigits cs := by
  simp [Option.isSome_iff_exists, digits?_eq_some_iff]

theorem span_digits (cs : List Char) :
    ∃ ds rest, cs.span isAsciiDigit = (ds, rest) ∧ cs = ds ++ rest ∧ IsDigits ds := by
  refine ⟨_, _, List.span_eq_takeWhile_dropWhile _ _, List.takeWhile_append_dropWhile.symm, ?_⟩
  intro c mem
  exact List.mem_takeWhile_imp mem

theorem span_append (digits : IsDigits ds)
    (ends : ∀ c, rest.head? = some c → isAsciiDigit c = false) :
    (ds ++ rest).span isAsciiDigit = (ds, rest) := by
  have stops : rest.takeWhile isAsciiDigit = [] ∧ rest.dropWhile isAsciiDigit = rest := by
    cases rest with
    | nil => exact ⟨rfl, rfl⟩
    | cons c more => simp [ends c rfl]
  rw [List.span_eq_takeWhile_dropWhile, List.takeWhile_append_of_pos digits,
    List.dropWhile_append_of_pos digits, stops.1, stops.2, List.append_nil]

theorem takeFraction_of_unpointed (unpointed : ∀ more, cs ≠ '.' :: more) :
    takeFraction cs = (false, [], cs) := by
  unfold takeFraction
  split
  · exact absurd rfl (unpointed _)
  · rfl

/-! ## The reader of plain notation -/

theorem ExponentPart.head? {c : Char} (isExponent : ExponentPart cs) (first : cs.head? = some c) :
    c = 'e' ∨ c = 'E' := by
  cases isExponent with
  | absent => cases first
  | present isLetter => exact Option.some.inj first ▸ isLetter

theorem exponentPart?_of_parts {letter : Char} {sign : List Char}
    (isLetter : letter = 'e' ∨ letter = 'E') (isSign : IsSign sign) (digits : IsDigits ds)
    (nonempty : ds ≠ []) : exponentPart? (letter :: (sign ++ ds)) =
      some (signed (decide (sign = ['-'])) (natOfDigits ds)) := by
  have run := digits?_eq_some_iff.mpr ⟨rfl, nonempty, digits⟩
  rw [exponentPart?, if_pos (by simpa using isLetter), takeSign_append isSign digits.unsigned]
  dsimp only
  rw [run]
  rfl

theorem exponentPart?_isSome_iff : (exponentPart? cs).isSome = true ↔ ExponentPart cs := by
  constructor
  · intro read
    cases cs with
    | nil => exact .absent
    | cons letter more =>
      rw [exponentPart?] at read
      split at read
      · rename_i isLetter
        obtain ⟨sign, signed, whole⟩ := exists_sign more
        rw [Option.isSome_map, digits?_isSome_iff] at read
        rw [whole]
        exact .present (by simpa using isLetter) signed read.2 read.1
      · cases read
  · intro grammar
    cases grammar with
    | absent => rfl
    | present isLetter signed digits nonempty =>
      rw [exponentPart?_of_parts isLetter signed digits nonempty]
      rfl

/-- An exponent does not prolong a run of digits. -/
theorem ExponentPart.ends {exponent : List Char} (isExponent : ExponentPart exponent) :
    ∀ c, exponent.head? = some c → isAsciiDigit c = false := by
  intro c first
  rcases isExponent.head? first with rfl | rfl <;> decide

theorem scientific?_of_whole {exponent : List Char} (digits : IsDigits ds) (nonempty : ds ≠ [])
    (isExponent : ExponentPart exponent) : scientific? (ds ++ exponent) =
      (exponentPart? exponent).map fun e => ⟨natOfDigits ds, e⟩ := by
  have unpointed : ∀ more, exponent ≠ '.' :: more := by
    rintro more rfl
    rcases isExponent.head? rfl with letter | letter <;> cases letter
  have some_digit : ¬ (ds.isEmpty && List.isEmpty ([] : List Char)) = true := by
    simpa using nonempty
  simp only [scientific?, span_append digits isExponent.ends, takeFraction_of_unpointed unpointed,
    if_neg some_digit, List.append_nil, List.length_nil, Int.natCast_zero, Int.sub_zero]

theorem scientific?_of_pointed {fs exponent : List Char} (digits : IsDigits ds)
    (fraction : IsDigits fs) (nonempty : ds ++ fs ≠ []) (isExponent : ExponentPart exponent) :
    scientific? (ds ++ '.' :: fs ++ exponent) =
      (exponentPart? exponent).map fun e => ⟨natOfDigits (ds ++ fs), e - fs.length⟩ := by
  have stops : ∀ c, ('.' :: (fs ++ exponent)).head? = some c → isAsciiDigit c = false := by
    intro c first
    obtain rfl := Option.some.inj first
    decide
  have some_digit : ¬ (ds.isEmpty && fs.isEmpty) = true := by simpa using nonempty
  simp only [scientific?, List.append_assoc, List.cons_append, span_append digits stops,
    takeFraction, span_append fraction isExponent.ends, if_neg some_digit]

theorem scientific?_isSome_iff : (scientific? cs).isSome = true ↔
    ∃ mantissa exponent, cs = mantissa ++ exponent ∧ Mantissa mantissa ∧ ExponentPart exponent := by
  constructor
  · intro read
    obtain ⟨ds, rest, span, rfl, digits⟩ := span_digits cs
    simp only [scientific?, span] at read
    split at read
    · cases read
    · rename_i nonempty
      rw [Option.isSome_map, exponentPart?_isSome_iff] at read
      -- The digits are the whole mantissa, or a point stands after them.
      by_cases point : ∃ more, rest = '.' :: more
      · obtain ⟨more, rfl⟩ := point
        obtain ⟨fs, exponent, span', rfl, fraction⟩ := span_digits more
        simp only [takeFraction, span'] at read nonempty
        refine ⟨ds ++ '.' :: fs, exponent, by simp, .pointed digits fraction ?_, read⟩
        simpa using nonempty
      · rw [takeFraction_of_unpointed fun more same => point ⟨more, same⟩] at read nonempty
        refine ⟨ds, rest, rfl, .whole digits ?_, read⟩
        simpa using nonempty
  · rintro ⟨mantissa, exponent, rfl, isMantissa, isExponent⟩
    have read := exponentPart?_isSome_iff.mpr isExponent
    cases isMantissa with
    | whole digits nonempty =>
      rwa [scientific?_of_whole digits nonempty isExponent, Option.isSome_map]
    | pointed digits fraction nonempty =>
      rwa [scientific?_of_pointed digits fraction nonempty isExponent, Option.isSome_map]

theorem Mantissa.head? {c : Char} (isMantissa : Mantissa cs) (first : (cs ++ rest).head? = some c) :
    c ≠ '+' ∧ c ≠ '-' := by
  have begins : c = '.' ∨ isAsciiDigit c = true := by
    cases isMantissa with
    | whole digits nonempty =>
      cases cs with
      | nil => exact absurd rfl nonempty
      | cons d more => exact .inr (Option.some.inj first ▸ digits d List.mem_cons_self)
    | @pointed ds fs digits _ _ =>
      cases ds with
      | nil => exact .inl (Option.some.inj first).symm
      | cons d more => exact .inr (Option.some.inj first ▸ digits d List.mem_cons_self)
  constructor <;> rintro rfl <;> revert begins <;> decide

/-- What is read as plain notation is in plain notation, and all of that is read. -/
theorem plain?_isSome_iff : (Operand.plain? cs).isSome = true ↔ PlainNotation cs := by
  have read : (Operand.plain? cs).isSome = (scientific? (takeSign cs).2).isSome := by
    rw [Operand.plain?, Option.isSome_map]
  rw [read, scientific?_isSome_iff]
  constructor
  · rintro ⟨mantissa, exponent, split, isMantissa, isExponent⟩
    obtain ⟨sign, signed, whole⟩ := exists_sign cs
    rw [whole, split]
    exact .mk signed isMantissa isExponent
  · intro grammar
    cases grammar with
    | @mk sign mantissa exponent signed isMantissa isExponent =>
      refine ⟨mantissa, exponent, ?_, isMantissa, isExponent⟩
      rw [takeSign_append signed fun c => isMantissa.head?]

/-- The characters of plain notation are ASCII characters, and none is an underscore. -/
theorem PlainNotation.ascii (grammar : PlainNotation cs) : ∀ c ∈ cs, c.toNat < 128 ∧ c ≠ '_' := by
  have digit : ∀ {ds}, IsDigits ds → ∀ c ∈ ds, c.toNat < 128 ∧ c ≠ '_' := by
    intro ds digits c mem
    have code := digits c mem
    simp only [isAsciiDigit, Bool.and_eq_true, decide_eq_true_eq] at code
    constructor
    · omega
    · rintro rfl
      exact absurd code (by decide)
  have sign : ∀ {cs}, IsSign cs → ∀ c ∈ cs, c.toNat < 128 ∧ c ≠ '_' := by
    rintro cs (rfl | rfl | rfl) <;> simp
  cases grammar with
  | @mk front mantissa exponent signed isMantissa isExponent =>
    simp only [List.forall_mem_append]
    refine ⟨sign signed, ?_, ?_⟩
    · cases isMantissa with
      | whole digits => exact digit digits
      | pointed digits fraction =>
        rw [List.forall_mem_append, List.forall_mem_cons]
        exact ⟨digit digits, by decide, digit fraction⟩
    · cases isExponent with
      | absent => simp
      | present isLetter signed digits =>
        rw [List.forall_mem_cons, List.forall_mem_append]
        refine ⟨?_, sign signed, digit digits⟩
        rcases isLetter with rfl | rfl <;> decide

/-! ## What the readers of numerals accept -/

/-- A text with an ASCII digit for each digit of another script, and without its underscores. -/
def folded (cs : List Char) : List Char :=
  (cs.map plainDigit).filter (· ≠ '_')

theorem folded_eq_self (ascii : ∀ c ∈ cs, c.toNat < 128 ∧ c ≠ '_') : folded cs = cs := by
  have same : ∀ c ∈ cs, plainDigit c = c := fun c mem => if_pos (ascii c mem).1
  rw [folded, List.map_congr_left same, List.map_id', List.filter_eq_self]
  intro c mem
  simpa using (ascii c mem).2

/-- A trimmed text has no margins left, so that only its digits are replaced. -/
theorem plain_trim (cs : List Char) : plain (trim cs) = (trim cs).map plainDigit := by
  have margin : ∀ c, isBlank c = false → isMargin c = false := by
    intro c noBlank
    rw [isMargin, noBlank, Bool.false_and]
  obtain ⟨front, back⟩ := isBare_trim cs
  have bare : IsBare isMargin (trim cs) :=
    ⟨fun c first => margin c (front c first), fun c last => margin c (back c last)⟩
  rw [plain, dropEnds_eq_self bare]

theorem eq_filter_of_withoutSeparators? {after : Bool}
    (read : withoutSeparators? after cs = some ds) : ds = cs.filter (· ≠ '_') := by
  induction cs generalizing after ds with
  | nil => exact (Option.some.inj read).symm
  | cons c rest ih =>
    rw [withoutSeparators?] at read
    -- An underscore is passed over or refused, and never kept.
    by_cases separator : c = '_'
    · rw [if_pos separator] at read
      split at read
      · rw [ih read, List.filter_cons_of_neg (by simpa using separator)]
      · cases read
    · rw [if_neg separator] at read
      obtain ⟨others, onward, rfl⟩ := Option.map_eq_some_iff.mp read
      rw [ih onward, List.filter_cons_of_pos (by simpa using separator)]

theorem plainNotation_of_scientific? {n : Scientific}
    (read : scientific? (takeSign cs).2 = some n) : PlainNotation cs := by
  rw [← plain?_isSome_iff, Operand.plain?, Option.isSome_map, read]
  rfl

theorem plainNotation_of_digits? (read : digits? (takeSign cs).2 = some ds) : PlainNotation cs := by
  obtain ⟨-, nonempty, digits⟩ := digits?_eq_some_iff.mp read
  obtain ⟨sign, signed, whole⟩ := exists_sign cs
  rw [whole, ← List.append_nil (takeSign cs).2]
  exact .mk signed (.whole digits nonempty) .absent

theorem plainNotation_of_readInt? {n : Int} (read : readInt? (trim cs) = some n) :
    PlainNotation (folded (trim cs)) := by
  obtain ⟨joined, separated, read⟩ := Option.bind_eq_some_iff.mp read
  obtain ⟨digits, run, -⟩ := Option.bind_eq_some_iff.mp read
  rw [plain_trim] at separated
  rw [folded, ← eq_filter_of_withoutSeparators? separated]
  exact plainNotation_of_digits? run

theorem plainNotation_of_readBinary64? {x : Binary64} (read : readBinary64? (trim cs) = some x)
    (finite : x.isFinite = true) : PlainNotation (folded (trim cs)) := by
  obtain ⟨joined, separated, read⟩ := Option.bind_eq_some_iff.mp read
  rw [plain_trim] at separated
  rw [folded, ← eq_filter_of_withoutSeparators? separated]
  dsimp only at read
  split at read
  · cases read
    cases finite
  · split at read
    · cases read
      cases finite
    · obtain ⟨n, number, -⟩ := Option.bind_eq_some_iff.mp read
      exact plainNotation_of_scientific? number

theorem plainNotation_of_readDecimal? {d : Decimal} (read : readDecimal? (trim cs) = some d)
    (finite : d.isFinite = true) : PlainNotation (folded (trim cs)) := by
  rw [readDecimal?, plain_trim, ← folded] at read
  dsimp only at read
  split at read
  · cases read
    cases finite
  · split at read
    · cases read
      cases finite
    · cases read
      cases finite
    · obtain ⟨n, number, -⟩ := Option.bind_eq_some_iff.mp read
      exact plainNotation_of_scientific? number

end QueryDesk.Numeral

namespace QueryDesk

/-! ## Operands in plain notation -/

namespace Operand

open Numeral

variable {s : String}

theorem ofText_of_not_plain (other : ¬ PlainNotation (Text.trim s.toList)) :
    ofText s = .text s := by
  have unread : plain? (Text.trim s.toList) = none := by
    simpa [← plain?_isSome_iff] using other
  rw [ofText, unread]
  rfl

theorem plainNotation_of_ofText (other : ofText s ≠ .text s) :
    PlainNotation (Text.trim s.toList) := by
  by_contra unread
  exact other (ofText_of_not_plain unread)

theorem whole_of_number? {p : Plain} {n : Int} (read : number? p = some (.int n)) :
    ∃ digits, p.whole? = some digits ∧ digits.length ≤ maxDigits ∧
      signed p.negative p.number.coefficient = n := by
  simp only [number?] at read
  split at read
  · cases read
  · split at read
    · rename_i digits whole
      split at read
      · rename_i short
        exact ⟨digits, whole, short, Value.int.inj (Option.some.inj read)⟩
      · cases read
    · cases read

theorem spells_of_takeSign {cs digits : List Char} {negative : Bool} {m : Nat}
    (sign : takeSign cs = (negative, digits)) (run : SpellsNat digits m) :
    Spells cs (signed negative m) := by
  unfold takeSign at sign
  split at sign <;> obtain ⟨rfl, rfl⟩ := Prod.mk.inj sign
  · exact .minus run
  · exact .plus run
  · exact .unsigned run

/-- A text that stands for a whole number spells it. -/
theorem spells_of_ofText {n : Int} (read : ofText s = .int n) :
    Spells (Text.trim s.toList) n := by
  rw [ofText] at read
  cases number : (plain? (Text.trim s.toList)).bind number? with
  | none =>
    rw [number] at read
    cases read
  | some v =>
    rw [number] at read
    obtain rfl : v = .int n := read
    obtain ⟨p, plain, number⟩ := Option.bind_eq_some_iff.mp number
    cases sign : takeSign (Text.trim s.toList) with | mk negative digits =>
    rw [plain?, sign] at plain
    obtain ⟨x, scientific, rfl⟩ := Option.map_eq_some_iff.mp plain
    obtain ⟨run, whole, short, rfl⟩ := whole_of_number? number
    obtain ⟨rfl, nonempty, every⟩ := digits?_eq_some_iff.mp whole
    have spells : SpellsNat run _ := ⟨nonempty, every, short, rfl⟩
    obtain rfl := Option.some.inj ((scientific?_of_spellsNat spells).symm.trans scientific)
    exact spells_of_takeSign sign spells

end Operand

/-- A finite number. -/
inductive Value.IsNumber : Value → Prop
  | int (n : Int) : IsNumber (.int n)
  | float {x : Binary64} (finite : x.isFinite = true) : IsNumber (.float x)
  | decimal {d : Decimal} (finite : d.isFinite = true) : IsNumber (.decimal d)

/-- What is read as a number of any kind is a number in plain notation, once it is folded. -/
theorem Binding.plainNotation_of_readNumber? {kind : NumberKind} {cs : List Char} {v : Value}
    (read : readNumber? kind (Text.trim cs) = some v) :
    v.IsNumber ∧ Numeral.PlainNotation (Numeral.folded (Text.trim cs)) := by
  cases kind with
  | whole =>
    obtain ⟨n, whole, rfl⟩ := Option.map_eq_some_iff.mp read
    exact ⟨.int n, Numeral.plainNotation_of_readInt? whole⟩
  | double =>
    obtain ⟨x, double, kept⟩ := Option.bind_eq_some_iff.mp read
    split at kept
    · rename_i finite
      obtain rfl := Option.some.inj kept
      exact ⟨.float finite, Numeral.plainNotation_of_readBinary64? double finite⟩
    · cases kept
  | decimal =>
    obtain ⟨d, decimal, kept⟩ := Option.bind_eq_some_iff.mp read
    split at kept
    · rename_i finite
      obtain rfl := Option.some.inj kept
      exact ⟨.decimal finite, Numeral.plainNotation_of_readDecimal? decimal finite⟩
    · cases kept

end QueryDesk

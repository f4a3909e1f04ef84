import Mathlib.Algebra.Group.Nat.Defs
import QueryDesk.Proofs.Number.Notation
import QueryDesk.Proofs.Text.Hex
import QueryDesk.Uuid

/-!
# Reading UUIDs

What is read as a UUID has 128 bits, and a UUID of 128 bits is read back from its text. Its 32
digits tell it from every other one.
-/

namespace QueryDesk.Uuid

open Text

/-- The value has no more than 128 bits. -/
def Fits (u : Uuid) : Prop :=
  u.value < 16 ^ 32

instance (u : Uuid) : Decidable u.Fits :=
  inferInstanceAs (Decidable (u.value < 16 ^ 32))

/-! ## Hexadecimal numbers -/

/-- Reading digits that were written goes on with their number after the value so far. -/
theorem hexNumber?_append {width n : Nat} (small : n < 16 ^ width) (value : Nat) (after : Bool)
    (rest : List Char) : hexNumber? value after (hexDigits width n ++ rest) =
      hexNumber? (value * 16 ^ width + n) (after || decide (0 < width)) rest := by
  induction width generalizing n rest with
  | zero =>
    obtain rfl : n = 0 := by simpa using small
    simp [hexDigits]
  | succ width ih =>
    have high : n / 16 < 16 ^ width := by
      rw [Nat.pow_succ] at small
      omega
    have digit := hexValue?_hexDigit (Nat.mod_lt n (by decide : 0 < 16))
    have noSeparator : hexDigit (n % 16) ≠ '_' := by
      intro same
      rw [same] at digit
      cases digit
    have value' : (value * 16 ^ width + n / 16) * 16 + n % 16 = value * 16 ^ (width + 1) + n := by
      rw [Nat.pow_succ, Nat.add_mul, Nat.mul_assoc]
      omega
    rw [hexDigits, List.append_assoc, ih high, List.singleton_append, hexNumber?, if_neg noSeparator,
      digit, Option.bind_some, value']
    simp

theorem hexNumber?_hexDigits {width n : Nat} (positive : 0 < width) (small : n < 16 ^ width) :
    hexNumber? 0 false (hexDigits width n) = some n := by
  have read := hexNumber?_append small 0 false []
  rw [List.append_nil] at read
  rw [read]
  simp [hexNumber?, positive]

theorem hexNumber?_lt {cs : List Char} {value n : Nat} {after : Bool}
    (read : hexNumber? value after cs = some n) : n < (value + 1) * 16 ^ cs.length := by
  induction cs generalizing value after with
  | nil =>
    rw [hexNumber?] at read
    split at read
    · cases read
      simp
    · cases read
  | cons c rest ih =>
    have longer : (value + 1) * 16 ^ rest.length ≤ (value + 1) * 16 ^ (rest.length + 1) :=
      Nat.mul_le_mul_left _ (Nat.pow_le_pow_right (by decide) (Nat.le_succ _))
    rw [hexNumber?] at read
    split at read
    · split at read
      · exact Nat.lt_of_lt_of_le (ih read) longer
      · cases read
    · obtain ⟨d, digit, read⟩ := Option.bind_eq_some_iff.mp read
      have small := hexValue?_lt digit
      calc n < (value * 16 + d + 1) * 16 ^ rest.length := ih read
        _ ≤ ((value + 1) * 16) * 16 ^ rest.length := Nat.mul_le_mul_right _ (by omega)
        _ = (value + 1) * 16 ^ (rest.length + 1) := by rw [Nat.pow_succ', Nat.mul_assoc]

theorem hexNumber?_lt_of_length_le {cs : List Char} {n length : Nat} {after : Bool}
    (read : hexNumber? 0 after cs = some n) (short : cs.length ≤ length) : n < 16 ^ length := by
  have bound := hexNumber?_lt read
  rw [Nat.zero_add, Nat.one_mul] at bound
  exact Nat.lt_of_lt_of_le bound (Nat.pow_le_pow_right (by decide) short)

theorem markedHexNumber?_lt {cs : List Char} {n : Nat} (read : markedHexNumber? cs = some n) :
    n < 16 ^ cs.length := by
  unfold markedHexNumber? at read
  split at read
  · rename_i x rest
    split at read
    · refine hexNumber?_lt_of_length_le read ?_
      rw [List.length_cons, List.length_cons]
      split
      · rw [List.length_drop]
        omega
      · omega
    · exact hexNumber?_lt_of_length_le read (Nat.le_refl _)
  · exact hexNumber?_lt_of_length_le read (Nat.le_refl _)

theorem length_plain_le (cs : List Char) : (Numeral.plain cs).length ≤ cs.length := by
  have inner := List.length_dropWhile_le Numeral.isMargin cs
  have outer := List.length_dropWhile_le Numeral.isMargin (cs.dropWhile Numeral.isMargin).reverse
  rw [List.length_reverse] at outer
  rw [Numeral.plain, List.length_map, dropWhileEnd, List.length_reverse]
  exact Nat.le_trans outer inner

theorem length_takeSign_le (cs : List Char) : (Numeral.takeSign cs).2.length ≤ cs.length := by
  unfold Numeral.takeSign
  split <;> simp

/-- What is read as a UUID has 128 bits. -/
theorem fits_of_parse? {s : String} {u : Uuid} (read : parse? s = some u) : u.Fits := by
  simp only [parse?] at read
  split at read
  · rename_i length
    obtain ⟨n, number, accepted⟩ := Option.bind_eq_some_iff.mp read
    have short := Nat.le_trans (length_takeSign_le _) (length_plain_le (bare s.toList))
    have bound := markedHexNumber?_lt number
    split at accepted
    · cases accepted
    · cases accepted
      exact Nat.lt_of_lt_of_le bound
        (Nat.pow_le_pow_right (by decide) (Nat.le_trans short (Nat.le_of_eq length)))
  · cases read

/-- A UUID is told from others by its digits. -/
theorem hex_inj {u w : Uuid} (u_fits : u.Fits) (w_fits : w.Fits) : u.hex = w.hex ↔ u = w := by
  constructor
  · intro same
    have read : hexNumber? 0 false u.hex = some u.value := hexNumber?_hexDigits (by decide) u_fits
    have read' : hexNumber? 0 false w.hex = some w.value := hexNumber?_hexDigits (by decide) w_fits
    rw [same, read'] at read
    obtain ⟨n⟩ := u
    exact congrArg Uuid.mk (Option.some.inj read).symm
  · rintro rfl
    rfl

/-! ## The text of a UUID -/

theorem toNat_of_mem_hex {u : Uuid} {c : Char} (mem : c ∈ u.hex) :
    (48 ≤ c.toNat ∧ c.toNat ≤ 57) ∨ (97 ≤ c.toNat ∧ c.toNat ≤ 102) :=
  toNat_of_mem_hexDigits mem

theorem mem_text {u : Uuid} {c : Char} (mem : c ∈ u.text.toList) : c = '-' ∨ c ∈ u.hex := by
  simp only [text, String.toList_ofList, List.append_assoc, List.cons_append, List.mem_append,
    List.mem_cons] at mem
  rcases mem with part | rfl | part | rfl | part | rfl | part | rfl | part
  · exact .inr (List.mem_of_mem_take part)
  · exact .inl rfl
  · exact .inr (List.mem_of_mem_drop (List.mem_of_mem_take part))
  · exact .inl rfl
  · exact .inr (List.mem_of_mem_drop (List.mem_of_mem_take part))
  · exact .inl rfl
  · exact .inr (List.mem_of_mem_drop (List.mem_of_mem_take part))
  · exact .inl rfl
  · exact .inr (List.mem_of_mem_drop part)

theorem removeWord_eq_self {first : Char} {others cs : List Char} (absent : first ∉ cs) :
    removeWord (first :: others) 0 cs = cs := by
  induction cs with
  | nil => rfl
  | cons c rest ih =>
    rw [List.mem_cons, not_or] at absent
    obtain ⟨differs, absent⟩ := absent
    have starts : (first :: others).isPrefixOf (c :: rest) = false := by
      simp [List.isPrefixOf, differs]
    rw [removeWord, starts, if_neg Bool.false_ne_true, ih absent]

theorem toNat_of_mem_text {u : Uuid} {c : Char} (mem : c ∈ u.text.toList) :
    c.toNat = 45 ∨ (48 ≤ c.toNat ∧ c.toNat ≤ 57) ∨ (97 ≤ c.toNat ∧ c.toNat ≤ 102) := by
  rcases mem_text mem with rfl | digit
  · exact .inl rfl
  · exact .inr (toNat_of_mem_hex digit)

theorem filter_text (u : Uuid) : u.text.toList.filter (· ≠ '-') = u.hex := by
  have kept : ∀ part : List Char, (∀ c ∈ part, c ∈ u.hex) → part.filter (· ≠ '-') = part := by
    intro part within
    refine List.filter_eq_self.mpr fun c mem => decide_eq_true ?_
    rintro rfl
    exact absurd (toNat_of_mem_hex (within '-' mem)) (by decide)
  have taken : ∀ n m, ((u.hex.drop n).take m).filter (· ≠ '-') = (u.hex.drop n).take m :=
    fun n m => kept _ fun c mem => List.mem_of_mem_drop (List.mem_of_mem_take mem)
  have first : (u.hex.take 8).filter (· ≠ '-') = u.hex.take 8 :=
    kept _ fun c mem => List.mem_of_mem_take mem
  have last : (u.hex.drop 20).filter (· ≠ '-') = u.hex.drop 20 :=
    kept _ fun c mem => List.mem_of_mem_drop mem
  have next : ∀ n, (u.hex.drop n).take 4 ++ u.hex.drop (n + 4) = u.hex.drop n := by
    intro n
    rw [← List.drop_drop, List.take_append_drop]
  have hyphen : decide ('-' ≠ '-') = false := by decide
  rw [text, String.toList_ofList]
  simp only [List.append_assoc, List.cons_append, List.filter_append, List.filter_cons, hyphen,
    Bool.false_eq_true, if_false, first, taken, last]
  rw [next 16, next 12, next 8, List.take_append_drop]

/-- Without what decorates them, the digits of the text are left. -/
theorem bare_text (u : Uuid) : bare u.text.toList = u.hex := by
  have noBrace : IsBare isBrace u.text.toList := isBare_of_forall fun c mem => by
    have code := toNat_of_mem_text mem
    simp only [isBrace, Bool.or_eq_false_iff, beq_eq_false_iff_ne]
    constructor <;> rintro rfl <;> exact absurd code (by decide)
  have noWord : ∀ others, removeWord ('u' :: others) 0 u.text.toList = u.text.toList :=
    fun others => removeWord_eq_self fun mem => absurd (toNat_of_mem_text mem) (by decide)
  have urn : removeWord "urn:".toList 0 u.text.toList = u.text.toList := noWord _
  have uuid : removeWord "uuid:".toList 0 u.text.toList = u.text.toList := noWord _
  simp only [bare, urn, uuid, dropEnds_eq_self noBrace]
  exact filter_text u

theorem strip_text (u : Uuid) : strip u.text = u.text := by
  have bare : IsBare isBlank u.text.toList := isBare_of_forall fun c mem => by
    have code := toNat_of_mem_text mem
    exact isBlank_of_ascii (by omega) (by omega)
  rw [strip, trim_eq_self bare, String.ofList_toList]

/-- The text has too many hyphens for a number. -/
theorem ofText_text (u : Uuid) : Operand.ofText u.text = .text u.text := by
  apply Operand.ofText_of_hyphens
  rw [← toList_strip, strip_text, text, String.toList_ofList]
  simp only [List.append_assoc, List.cons_append, List.count_append, List.count_cons_self]
  omega

theorem markedHexNumber?_hex {u : Uuid} (fits : u.Fits) :
    markedHexNumber? u.hex = some u.value := by
  have unmarked : ∀ x ∈ u.hex, (decide (x = 'x') || decide (x = 'X')) = false := by
    intro x mem
    rw [Bool.or_eq_false_iff, decide_eq_false_iff_not, decide_eq_false_iff_not]
    constructor <;> rintro rfl <;> exact absurd (toNat_of_mem_hex mem) (by decide)
  have read : hexNumber? 0 false u.hex = some u.value := hexNumber?_hexDigits (by decide) fits
  unfold markedHexNumber?
  split
  · rename_i x rest same
    have mem : x ∈ u.hex := by
      rw [same]
      exact List.mem_cons_of_mem _ List.mem_cons_self
    rw [unmarked x mem, if_neg Bool.false_ne_true, read]
  · exact read

/-- A UUID is read back from its text. -/
theorem parse?_text {u : Uuid} (fits : u.Fits) : parse? u.text = some u := by
  have length : u.hex.length = 32 := length_hexDigits 32 u.value
  have readable : ∀ c ∈ u.hex, c.toNat < 128 ∧ isBlank c = false := by
    intro c mem
    have code := toNat_of_mem_hex mem
    exact ⟨by omega, isBlank_of_ascii (by omega) (by omega)⟩
  have unsigned : Numeral.takeSign u.hex = (false, u.hex) :=
    Numeral.takeSign_eq_self (fun mem => absurd (toNat_of_mem_hex mem) (by decide))
      fun mem => absurd (toNat_of_mem_hex mem) (by decide)
  simp only [parse?, bare_text, length, Numeral.plain_eq_self readable, unsigned,
    markedHexNumber?_hex fits, if_true, Option.bind_some, Bool.false_and, Bool.false_eq_true,
    if_false]

end QueryDesk.Uuid

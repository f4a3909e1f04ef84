import Mathlib.Data.List.TakeDrop
import QueryDesk.Http.Payload
import QueryDesk.Json.Printer
import QueryDesk.Proofs.Number.Spelling
import QueryDesk.Proofs.Steps
import QueryDesk.Proofs.Text.Cut
import QueryDesk.Proofs.Text.Hex

/-!
# Reading what was written

A value that is null, a truth value, a whole number of no more digits than are read, a text, or a
list or an object of such values, is read back from its compact form.
-/

namespace QueryDesk

namespace Json

/-! ## Strings -/

theorem fourHex?_hexDigits {unit : Nat} (small : unit < 0x10000) :
    fourHex? (Text.hexDigits 4 unit) = some unit := by
  have digit : ∀ n, Text.hexValue? (Text.hexDigit (n % 16)) = some (n % 16) :=
    fun n => Text.hexValue?_hexDigit (Nat.mod_lt n (by decide))
  simp only [Text.hexDigits, List.nil_append, List.cons_append, fourHex?, digit,
    Option.bind_eq_bind, Option.bind_some, Option.some.injEq]
  omega

theorem unit?_hexDigits {unit : Nat} (small : unit < 0x10000) {more : List Char}
    (goesOn : more ≠ []) : unit? (Text.hexDigits 4 unit ++ more) = some unit := by
  have taken : (Text.hexDigits 4 unit ++ more).take 4 = Text.hexDigits 4 unit :=
    List.take_left' (Text.length_hexDigits 4 unit)
  have long : 4 < (Text.hexDigits 4 unit ++ more).length := by
    have := List.length_pos_iff.mpr goesOn
    simp only [List.length_append, Text.length_hexDigits]
    omega
  rw [unit?, if_pos long, taken, fourHex?_hexDigits small]

/-- A character beyond the basic plane has two escapes, one for each half. -/
theorem unicodeEscape_halves {n : Nat} (small : n < 0x100000) {more : List Char}
    (goesOn : more ≠ []) :
    unicodeEscape (Text.hexDigits 4 (0xD800 + n / 0x400) ++
        (unitText (0xDC00 + n % 0x400) ++ more)) =
      .ok (some (Char.ofNat (0x10000 + n)), 10) := by
  have first : 0xD800 + n / 0x400 < 0x10000 := by omega
  have second : 0xDC00 + n % 0x400 < 0x10000 := by omega
  have high : isHighHalf (0xD800 + n / 0x400) = true := by
    simp only [isHighHalf, Bool.and_eq_true, decide_eq_true_eq]
    omega
  have low : isLowHalf (0xDC00 + n % 0x400) = true := by
    simp only [isLowHalf, Bool.and_eq_true, decide_eq_true_eq]
    omega
  have long : 4 < (Text.hexDigits 4 (0xDC00 + n % 0x400) ++ more).length := by
    have := List.length_pos_iff.mpr goesOn
    simp only [List.length_append, Text.length_hexDigits]
    omega
  have whole : 0x10000 + (0xD800 + n / 0x400 - 0xD800) * 0x400 + (0xDC00 + n % 0x400 - 0xDC00) =
      0x10000 + n := by omega
  rw [unicodeEscape, unit?_hexDigits first (by simp [unitText])]
  simp only [List.drop_left' (Text.length_hexDigits 4 _), unitText, List.cons_append, high, long,
    List.take_left' (Text.length_hexDigits 4 _), fourHex?_hexDigits second, low, whole, if_true,
    Bool.true_and, decide_true]

theorem unicodeEscape_unit {c : Char} (basic : c.toNat < 0x10000) {more : List Char}
    (goesOn : more ≠ []) :
    unicodeEscape (Text.hexDigits 4 c.toNat ++ more) = .ok (some c, 4) := by
  have valid : c.toNat.isValidChar := c.valid
  have notHigh : isHighHalf c.toNat = false := by
    simp only [isHighHalf, Bool.and_eq_false_iff, decide_eq_false_iff_not]
    unfold Nat.isValidChar at valid
    omega
  have notLow : isLowHalf c.toNat = false := by
    simp only [isLowHalf, Bool.and_eq_false_iff, decide_eq_false_iff_not]
    unfold Nat.isValidChar at valid
    omega
  have char : unitChar? c.toNat = some c := by
    simp [unitChar?, notHigh, notLow, Char.ofNat_toNat]
  rw [unicodeEscape, unit?_hexDigits basic goesOn]
  simp only [List.drop_left' (Text.length_hexDigits 4 _), notHigh, char, Bool.false_and,
    Bool.false_eq_true, if_false]
  split <;> rfl

/-- The rest of a string, with a character before it. -/
def withChar (c : Char) (found : List (Option Char) × List Char) :
    List (Option Char) × List Char :=
  (some c :: found.1, found.2)

theorem stringBody_pass (start : Nat) (passed more : List Char) :
    stringBody start passed.length (passed ++ more) = stringBody start 0 more := by
  induction passed with
  | nil => rfl
  | cons c rest ih => rw [List.length_cons, List.cons_append, stringBody, ih]

theorem stringBody_plain {c : Char} (noQuote : c ≠ '"') (noSlash : c ≠ '\\')
    (visible : 0x20 ≤ c.toNat) (start : Nat) (more : List Char) :
    stringBody start 0 (c :: more) = (stringBody start 0 more).map (withChar c) := by
  have noControl : ¬ c.toNat ≤ 0x1F := by omega
  rw [stringBody.eq_def]
  simp only [if_neg noQuote, if_neg noControl, if_neg noSlash]
  cases stringBody start 0 more <;> rfl

theorem stringBody_short {e c : Char} (short : shortEscape? e = some c) (start : Nat)
    (more : List Char) :
    stringBody start 0 ('\\' :: e :: more) = (stringBody start 0 more).map (withChar c) := by
  have noUnicode : e ≠ 'u' := by
    rintro rfl
    cases short
  have passes : stringBody start 1 (e :: more) = stringBody start 0 more :=
    stringBody_pass start [e] more
  rw [stringBody]
  simp only [show ('\\' : Char) ≠ '"' by decide, show ¬ ('\\' : Char).toNat ≤ 0x1F by decide,
    if_false, if_true, noUnicode, short, passes]
  cases stringBody start 0 more <;> rfl

theorem stringBody_unicode {digits more : List Char} {c : Char}
    (read : unicodeEscape (digits ++ more) = .ok (some c, digits.length)) (start : Nat) :
    stringBody start 0 ('\\' :: 'u' :: (digits ++ more)) =
      (stringBody start 0 more).map (withChar c) := by
  have passes : stringBody start (1 + digits.length) ('u' :: (digits ++ more)) =
      stringBody start 0 more := by
    rw [Nat.add_comm]
    exact stringBody_pass start ('u' :: digits) more
  rw [stringBody]
  simp only [show ('\\' : Char) ≠ '"' by decide, show ¬ ('\\' : Char).toNat ≤ 0x1F by decide,
    if_false, if_true, read, bind, Except.bind, passes]
  cases stringBody start 0 more <;> rfl

/-- What may stand for a character in a string. -/
inductive StandsFor (c : Char) : List Char → Prop
  | short {e : Char} (short : shortEscape? e = some c) : StandsFor c ['\\', e]
  | plain (noQuote : c ≠ '"') (noSlash : c ≠ '\\') (visible : 0x20 ≤ c.toNat) : StandsFor c [c]
  | unit (basic : c.toNat < 0x10000) : StandsFor c (unitText c.toNat)
  | halves {n : Nat} (beyond : c.toNat = 0x10000 + n) :
      StandsFor c (unitText (0xD800 + n / 0x400) ++ unitText (0xDC00 + n % 0x400))

theorem standsFor_charText (c : Char) : StandsFor c (charText c) := by
  have ofCode : ∀ {n : Nat}, c.toNat = n → c = Char.ofNat n := by
    rintro n rfl
    exact (Char.ofNat_toNat c).symm
  unfold charText
  split_ifs with quote slash line back tab rubout feed visible basic
  · subst quote
    exact .short rfl
  · subst slash
    exact .short rfl
  · exact .short (line ▸ rfl)
  · exact .short (back ▸ rfl)
  · exact .short (tab ▸ rfl)
  · exact .short (ofCode rubout ▸ rfl)
  · exact .short (ofCode feed ▸ rfl)
  · have shown : 0x20 ≤ c.toNat ∧ c.toNat ≤ 0x7E := by simpa using visible
    exact .plain quote slash shown.1
  · exact .unit basic
  · exact .halves (by omega)

/-- A character is read back from what stands for it. -/
theorem stringBody_of_standsFor {c : Char} {text : List Char} (stands : StandsFor c text)
    (start : Nat) {more : List Char} (goesOn : more ≠ []) :
    stringBody start 0 (text ++ more) = (stringBody start 0 more).map (withChar c) := by
  cases stands with
  | short short => exact stringBody_short short start more
  | plain noQuote noSlash visible => exact stringBody_plain noQuote noSlash visible start more
  | unit basic =>
    exact stringBody_unicode
      (by rw [Text.length_hexDigits, unicodeEscape_unit basic goesOn]) start
  | @halves n beyond =>
    have small : n < 0x100000 := by
      have valid : c.toNat.isValidChar := c.valid
      unfold Nat.isValidChar at valid
      omega
    have read := unicodeEscape_halves small goesOn
    rw [← beyond, Char.ofNat_toNat, ← List.append_assoc] at read
    have length : (Text.hexDigits 4 (0xD800 + n / 0x400) ++
        unitText (0xDC00 + n % 0x400)).length = 10 := by
      simp [unitText]
    rw [← length] at read
    exact stringBody_unicode read start

theorem string_stringText (s : String) (rest : List Char) :
    string (s.toList.flatMap charText ++ '"' :: rest) = .ok ((s, false), rest) := by
  have body : ∀ start, ∀ cs : List Char, stringBody start 0 (cs.flatMap charText ++ '"' :: rest) =
      .ok (cs.map some, rest) := by
    intro start cs
    induction cs with
    | nil =>
      rw [List.flatMap_nil, List.nil_append, stringBody.eq_def]
      rfl
    | cons c more ih =>
      rw [List.flatMap_cons, List.append_assoc, stringBody_of_standsFor (standsFor_charText c) start (by simp),
        ih]
      rfl
  rw [string, body]
  simp [bind, Except.bind, pure, Except.pure, Function.comp_def]

/-! ## Whole numbers -/

/-- A value may end before the text: there is none, or it ends an array or object or goes on with
    it. -/
def Ends (rest : List Char) : Prop :=
  ∀ c, rest.head? = some c → c = ',' ∨ c = ']' ∨ c = '\x7d'

theorem head?_toDigits_ne_zero {n : Nat} (positive : 0 < n) :
    (Nat.toDigits 10 n).head? ≠ some '0' := by
  induction n using Nat.strongRecOn with
  | ind n ih =>
    by_cases small : n < 10
    · have digit : ∀ d < 10, 0 < d → [d.digitChar].head? ≠ some '0' := by decide
      rw [Nat.toDigits_of_lt_base small]
      exact digit n small positive
    · rw [Nat.toDigits_of_base_le (by decide) (by omega), List.head?_append,
        Option.or_of_isSome (by simp [Nat.toDigits_ne_nil])]
      exact ih (n / 10) (by omega) (by omega)

theorem takeWhile_digits_of_ends {rest : List Char} (ends : Ends rest) :
    rest.takeWhile Text.isAsciiDigit = [] ∧ rest.dropWhile Text.isAsciiDigit = rest := by
  cases rest with
  | nil => exact ⟨rfl, rfl⟩
  | cons c more =>
    have noDigit : Text.isAsciiDigit c = false := by
      rcases ends c rfl with rfl | rfl | rfl <;> decide
    simp [noDigit]

theorem toDigits_begins (n : Nat) :
    ∃ c more, Nat.toDigits 10 n = c :: more ∧ Text.isAsciiDigit c = true := by
  cases digits : Nat.toDigits 10 n with
  | nil => exact absurd digits Nat.toDigits_ne_nil
  | cons c more =>
    exact ⟨c, more, rfl, Numeral.isAsciiDigit_of_mem_toDigits (digits ▸ List.mem_cons_self)⟩

theorem wholePart?_toDigits (n : Nat) {rest : List Char} (ends : Ends rest) :
    wholePart? (Nat.toDigits 10 n ++ rest) = some (Nat.toDigits 10 n, rest) := by
  by_cases positive : 0 < n
  · have every : ∀ c ∈ Nat.toDigits 10 n, Text.isAsciiDigit c = true :=
      fun c mem => Numeral.isAsciiDigit_of_mem_toDigits mem
    have first : (Nat.toDigits 10 n ++ rest).head? = (Nat.toDigits 10 n).head? := by
      rw [List.head?_append, Option.or_of_isSome (by simp [Nat.toDigits_ne_nil])]
    obtain ⟨none, all⟩ := takeWhile_digits_of_ends ends
    unfold wholePart?
    split
    · rename_i more begins
      rw [begins] at first
      exact absurd first.symm (head?_toDigits_ne_zero positive)
    · simp [List.span_eq_takeWhile_dropWhile, List.takeWhile_append_of_pos every,
        List.dropWhile_append_of_pos every, none, all, Nat.toDigits_ne_nil]
  · obtain rfl : n = 0 := by omega
    rfl

theorem fractionPart_of_ends {rest : List Char} (ends : Ends rest) :
    fractionPart rest = ([], rest) := by
  unfold fractionPart
  split
  · rcases ends _ rfl with same | same | same <;> cases same
  · rfl

theorem exponentPart_of_ends {rest : List Char} (ends : Ends rest) :
    exponentPart rest = (none, rest) := by
  cases rest with
  | nil => rfl
  | cons c more =>
    have noLetter : (c = 'e' || c = 'E') = false := by
      rcases ends c rfl with rfl | rfl | rfl <;> decide
    simp only [exponentPart, noLetter, Bool.false_eq_true, if_false]

theorem length_toDigits_le_of_lt {n k : Nat} (positive : 0 < k) (fits : n < Nat.pow 10 k) :
    (Nat.toDigits 10 n).length ≤ k :=
  (Nat.length_toDigits_le_iff (by decide) positive).mpr fits

theorem number_natural {n : Nat} (short : (Nat.toDigits 10 n).length ≤ Numeral.maxDigits)
    {rest : List Char} (ends : Ends rest) :
    number (Nat.toDigits 10 n ++ rest) = .ok (.int n, rest) ∧
      number ('-' :: (Nat.toDigits 10 n ++ rest)) = .ok (.int (-n), rest) := by
  unfold number
  constructor
  · have unsigned : ∀ more, Nat.toDigits 10 n ++ rest ≠ '-' :: more := by
      intro more same
      obtain ⟨first, others, digits, digit⟩ := toDigits_begins n
      rw [digits] at same
      obtain rfl := (List.cons.inj same).1
      cases digit
    split
    rename_i negative text sign
    split at sign
    · rename_i more same
      exact absurd same (unsigned more)
    · cases sign
      simp only [wholePart?_toDigits n ends, fractionPart_of_ends ends, exponentPart_of_ends ends,
        List.isEmpty_nil, Option.isNone_none, Bool.and_self, if_true, short,
        Numeral.natOfDigits_toDigits]
      rfl
  · simp only [wholePart?_toDigits n ends, fractionPart_of_ends ends, exponentPart_of_ends ends,
      List.isEmpty_nil, Option.isNone_none, Bool.and_self, if_true, short,
      Numeral.natOfDigits_toDigits]
    rfl

theorem number_toString {n : Int} (fits : n.natAbs < Nat.pow 10 Numeral.maxDigits)
    {rest : List Char} (ends : Ends rest) :
    number ((toString n).toList ++ rest) = .ok (.int n, rest) := by
  have short := length_toDigits_le_of_lt (k := Numeral.maxDigits) (by decide) fits
  obtain ⟨natural, negative⟩ := number_natural short ends
  rw [Int.toString_eq_repr, Int.repr_eq_if]
  by_cases positive : 0 ≤ n
  · have same : n.toNat = n.natAbs := by omega
    have back : (n.natAbs : Int) = n := by omega
    rw [if_pos positive, Nat.toList_repr, same, natural, back]
  · have same : (-n).toNat = n.natAbs := by omega
    have back : -(n.natAbs : Int) = n := by omega
    rw [if_neg positive, String.toList_append, Nat.toList_repr, same]
    rw [back] at negative
    exact negative

/-! ## Values -/

mutual

/-- A value that is read back from its compact form: no double and of a kind that JSON has, with
    whole numbers of no more digits than are read, distinct keys, and no more than `depth` lists and
    objects around each other. -/
def isPlain : (depth : Nat) → Value → Bool
  | _, .null | _, .bool _ | _, .text _ => true
  | _, .int n => n.natAbs < Nat.pow 10 Numeral.maxDigits
  | depth + 1, .list items => arePlain depth items
  | depth + 1, .object members =>
    decide (Members.keys members).Nodup && membersArePlain depth members
  | _, _ => false

/-- Every item is read back. -/
def arePlain : (depth : Nat) → List Value → Bool
  | _, [] => true
  | depth, item :: rest => isPlain depth item && arePlain depth rest

/-- The value of every member is read back. -/
def membersArePlain : (depth : Nat) → List (String × Value) → Bool
  | _, [] => true
  | depth, (_, value) :: rest => isPlain depth value && membersArePlain depth rest

end

theorem skip_cons {c : Char} (visible : isSpace c = false) (rest : List Char) :
    skip (c :: rest) = c :: rest :=
  List.dropWhile_cons_of_neg (by simp [visible])

theorem toString_begins (n : Int) : ∃ c more, (toString n).toList = c :: more ∧
    (Text.isAsciiDigit c = true ∨ c = '-' ∧ ∃ d others, more = d :: others ∧
      Text.isAsciiDigit d = true) := by
  rw [Int.toString_eq_repr, Int.repr_eq_if]
  split
  · obtain ⟨c, more, written, digit⟩ := toDigits_begins n.toNat
    exact ⟨c, more, by rw [Nat.toList_repr, written], .inl digit⟩
  · obtain ⟨c, more, written, digit⟩ := toDigits_begins (-n).toNat
    refine ⟨'-', c :: more, ?_, .inr ⟨rfl, c, more, rfl, digit⟩⟩
    rw [String.toList_append, Nat.toList_repr, written]
    rfl

theorem word?_eq_none {cs : List Char} (other : ∀ entry ∈ words, ¬ entry.1.toList <+: cs) :
    word? cs = none := by
  rw [word?, List.findSome?_eq_none_iff]
  intro entry mem
  rw [Option.map_eq_none_iff, Text.isPrefixOf?_eq_none_iff]
  exact other entry mem

theorem word?_toString (n : Int) (rest : List Char) :
    word? ((toString n).toList ++ rest) = none := by
  obtain ⟨c, more, written, begins⟩ := toString_begins n
  refine word?_eq_none fun entry mem starts => ?_
  rw [written, List.cons_append] at starts
  simp only [words, List.mem_cons, List.not_mem_nil, or_false] at mem
  rcases begins with digit | ⟨rfl, d, others, rfl, digit⟩
  · rcases mem with rfl | rfl | rfl | rfl | rfl | rfl <;>
      (simp only [String.reduceToList, List.cons_prefix_cons] at starts
       obtain ⟨rfl, -⟩ := starts
       cases digit)
  · -- Of the words only the negative infinity begins with a sign, and no digit follows it.
    rcases mem with rfl | rfl | rfl | rfl | rfl | rfl <;>
      simp only [String.reduceToList, List.cons_append, List.cons_prefix_cons, Char.reduceEq,
        false_and] at starts
    obtain ⟨-, rfl, -⟩ := starts
    cases digit

/-- What follows the opening of a list or an object, or a comma or colon in it, is no blank, and it
    does not close a list. -/
theorem compactChars_begins {depth : Nat} {v : Value} (plain : isPlain depth v = true) :
    ∃ c more, compactChars v = c :: more ∧ isSpace c = false ∧ c ≠ ']' := by
  cases v with
  | null => exact ⟨_, _, rfl, by decide, by decide⟩
  | bool b => cases b <;> exact ⟨_, _, rfl, by decide, by decide⟩
  | text s => exact ⟨_, _, rfl, by decide, by decide⟩
  | list items => exact ⟨_, _, rfl, by decide, by decide⟩
  | object members => exact ⟨_, _, rfl, by decide, by decide⟩
  | int n =>
    obtain ⟨c, more, written, begins⟩ := toString_begins n
    refine ⟨c, more, written, ?_⟩
    rcases begins with digit | ⟨rfl, -⟩
    · constructor
      · rw [← Bool.not_eq_true]
        intro space
        simp only [isSpace, Bool.or_eq_true, beq_iff_eq] at space
        rcases space with ((rfl | rfl) | rfl) | rfl <;> cases digit
      · rintro rfl
        cases digit
    · exact ⟨by decide, by decide⟩
  | _ => simp [isPlain] at plain

/-! ### The steps of the reader -/

theorem value_leaf {c : Char} (noText : c ≠ '"') (noObject : c ≠ '\x7b') (noList : c ≠ '[')
    (fuel depth : Nat) (more : List Char) : value (fuel + 1) depth (c :: more) =
      match word? (c :: more) with
      | some found => .ok found
      | none => number (c :: more) := by
  rw [value]
  all_goals first | rfl | simp [noText, noObject, noList]

theorem value_text (fuel depth : Nat) (s : String) (rest : List Char) :
    value (fuel + 1) depth (stringText s ++ rest) = .ok (.text s, rest) := by
  have opened : stringText s ++ rest = '"' :: (s.toList.flatMap charText ++ '"' :: rest) := by
    simp [stringText]
  rw [opened, value, string_stringText]
  rfl

theorem value_list {c : Char} (visible : isSpace c = false) (opens : c ≠ ']') (fuel depth : Nat)
    (more : List Char) : value (fuel + 1) (depth + 1) ('[' :: c :: more) =
      (items fuel depth (c :: more)).map fun found => (.list found.1, found.2) := by
  rw [value, skip_cons visible]
  split
  · rename_i same
    exact absurd (List.cons.inj same).1 opens
  · cases items fuel depth (c :: more) <;> rfl

theorem value_object (fuel depth : Nat) (more : List Char) :
    value (fuel + 1) (depth + 1) ('\x7b' :: '"' :: more) =
      (members fuel depth ('"' :: more)).map
        fun found => (.object (Members.ofPairs found.1), found.2) := by
  rw [value, skip_cons (by decide)]
  split
  · rename_i same
    exact absurd (List.cons.inj same).1 (by decide)
  · cases members fuel depth ('"' :: more) <;> rfl

theorem items_last {fuel depth : Nat} {text rest : List Char} {v : Value}
    (read : value fuel depth text = .ok (v, ']' :: rest)) :
    items (fuel + 1) depth text = .ok ([v], rest) := by
  rw [items, read]
  rfl

theorem items_more {fuel depth : Nat} {text more rest : List Char} {v : Value}
    {others : List Value} (read : value fuel depth text = .ok (v, ',' :: more))
    (visible : skip more = more) (later : items fuel depth more = .ok (others, rest)) :
    items (fuel + 1) depth text = .ok (v :: others, rest) := by
  rw [items, read]
  simp only [bind, Except.bind, skip_cons (show isSpace ',' = false by decide), visible, later]
  rfl

theorem members_last {fuel depth : Nat} {key : String} {text rest : List Char} {v : Value}
    (visible : skip text = text) (read : value fuel depth text = .ok (v, '\x7d' :: rest)) :
    members (fuel + 1) depth (stringText key ++ ':' :: text) = .ok ([(key, v)], rest) := by
  have opened : stringText key ++ ':' :: text =
      '"' :: (key.toList.flatMap charText ++ '"' :: ':' :: text) := by
    simp [stringText]
  rw [opened, members, string_stringText]
  simp only [bind, Except.bind, skip_cons (show isSpace ':' = false by decide), visible, read]
  rfl

theorem members_more {fuel depth : Nat} {key : String} {text more rest : List Char} {v : Value}
    {others : Members} (visible : skip text = text)
    (read : value fuel depth text = .ok (v, ',' :: more)) (visible' : skip more = more)
    (later : members fuel depth more = .ok (others, rest)) :
    members (fuel + 1) depth (stringText key ++ ':' :: text) = .ok ((key, v) :: others, rest) := by
  have opened : stringText key ++ ':' :: text =
      '"' :: (key.toList.flatMap charText ++ '"' :: ':' :: text) := by
    simp [stringText]
  rw [opened, members, string_stringText]
  simp only [bind, Except.bind, skip_cons (show isSpace ':' = false by decide), visible, read,
    skip_cons (show isSpace ',' = false by decide), visible', later]
  rfl

theorem value_int {n : Int} (fits : n.natAbs < Nat.pow 10 Numeral.maxDigits) (fuel depth : Nat)
    {rest : List Char} (ends : Ends rest) :
    value (fuel + 1) depth ((toString n).toList ++ rest) = .ok (.int n, rest) := by
  have read := number_toString fits ends
  have noWord := word?_toString n rest
  obtain ⟨c, more, written, begins⟩ := toString_begins n
  rw [written, List.cons_append] at read noWord ⊢
  have noMark : ∀ mark : Char, Text.isAsciiDigit mark = false → mark ≠ '-' → c ≠ mark := by
    rintro mark noDigit noSign rfl
    rcases begins with digit | ⟨sign, -⟩
    · rw [noDigit] at digit
      cases digit
    · exact noSign sign
  rw [value_leaf (noMark _ (by decide) (by decide)) (noMark _ (by decide) (by decide))
    (noMark _ (by decide) (by decide)), noWord, read]

theorem set_of_new {key : String} {members : Members} (new : key ∉ Members.keys members)
    (v : Value) : Members.set key v members = members ++ [(key, v)] := by
  induction members with
  | nil => rfl
  | cons pair rest ih =>
    simp only [Members.keys, List.map_cons, List.mem_cons, not_or] at new ih
    rw [Members.set, if_neg (Ne.symm new.1), ih new.2, List.cons_append]

theorem ofPairs_of_nodup {pairs : Members} (distinct : (Members.keys pairs).Nodup) :
    Members.ofPairs pairs = pairs := by
  have fold : ∀ before : Members, (Members.keys (before ++ pairs)).Nodup →
      pairs.foldl (fun members pair => Members.set pair.1 pair.2 members) before =
        before ++ pairs := by
    clear distinct
    induction pairs with
    | nil => simp
    | cons pair rest ih =>
      intro before distinct
      have new : pair.1 ∉ Members.keys before := by
        intro mem
        simp only [Members.keys, List.map_append, List.map_cons] at distinct
        exact (List.nodup_append.mp distinct).2.2 _ mem _ List.mem_cons_self rfl
      rw [List.foldl_cons, set_of_new new, ih _ (by simpa using distinct), List.append_assoc,
        List.singleton_append]
  exact fold [] distinct

/-! ### The whole value -/

theorem skip_compactChars {depth : Nat} {v : Value} (plain : isPlain depth v = true)
    (rest : List Char) : skip (compactChars v ++ rest) = compactChars v ++ rest := by
  obtain ⟨c, more, written, visible, -⟩ := compactChars_begins plain
  rw [written, List.cons_append, skip_cons visible]

theorem commas_begins (text : List Char) (others : List (List Char)) :
    ∃ rest, commas (text :: others) = text ++ rest := by
  cases others with
  | nil => exact ⟨[], by simp [commas]⟩
  | cons second more =>
    exact ⟨',' :: commas (second :: more), by simp [commas, List.intercalate_cons_cons]⟩

theorem ends_cons {c : Char} (closing : c = ',' ∨ c = ']' ∨ c = '\x7d') (rest : List Char) :
    Ends (c :: rest) := by
  rintro d ⟨⟩
  exact closing

/-- Values that hold no more than `depth` lists and objects around each other are read back. -/
def ReadsBack (depth : Nat) : Prop :=
  ∀ (v : Value) (fuel : Nat) (rest : List Char), isPlain depth v = true →
    2 * (compactChars v).length ≤ fuel → Ends rest →
    value fuel depth (compactChars v ++ rest) = .ok (v, rest)

theorem ReadsBack.items {depth : Nat} (readsBack : ReadsBack depth) {first : Value}
    {others : List Value} (plain : arePlain depth (first :: others) = true) {fuel : Nat}
    (enough : 2 * (commas (itemsText (first :: others))).length + 2 ≤ fuel) (rest : List Char) :
    Json.items fuel depth (commas (itemsText (first :: others)) ++ ']' :: rest) =
      .ok (first :: others, rest) := by
  induction others generalizing first fuel with
  | nil =>
    rw [arePlain, Bool.and_eq_true] at plain
    obtain ⟨fuel, rfl⟩ : ∃ f, fuel = f + 1 := ⟨fuel - 1, by omega⟩
    simp only [itemsText, commas, List.intercalate_singleton] at enough ⊢
    exact items_last (readsBack first fuel _ plain.1 (by omega) (ends_cons (by simp) rest))
  | cons second more ih =>
    rw [arePlain, Bool.and_eq_true] at plain
    obtain ⟨fuel, rfl⟩ : ∃ f, fuel = f + 1 := ⟨fuel - 1, by omega⟩
    have whole : commas (itemsText (first :: second :: more)) =
        compactChars first ++ ',' :: commas (itemsText (second :: more)) := by
      simp [itemsText, commas, List.intercalate_cons_cons]
    have second_plain : isPlain depth second = true := by
      rw [arePlain, Bool.and_eq_true] at plain
      exact plain.2.1
    obtain ⟨tail, begins⟩ := commas_begins (compactChars second) (itemsText more)
    have visible : skip (commas (itemsText (second :: more)) ++ ']' :: rest) =
        commas (itemsText (second :: more)) ++ ']' :: rest := by
      rw [itemsText, begins, List.append_assoc, skip_compactChars second_plain]
    rw [whole, List.length_append, List.length_cons] at enough
    rw [whole, List.append_assoc, List.cons_append]
    exact items_more (readsBack first fuel _ plain.1 (by omega) (ends_cons (by simp) _)) visible
      (ih plain.2 (by omega))

theorem ReadsBack.members {depth : Nat} (readsBack : ReadsBack depth) {key : String} {first : Value}
    {others : Members} (plain : membersArePlain depth ((key, first) :: others) = true) {fuel : Nat}
    (enough : 2 * (commas (membersText ((key, first) :: others))).length + 2 ≤ fuel)
    (rest : List Char) :
    Json.members fuel depth (commas (membersText ((key, first) :: others)) ++ '\x7d' :: rest) =
      .ok ((key, first) :: others, rest) := by
  induction others generalizing key first fuel with
  | nil =>
    rw [membersArePlain, Bool.and_eq_true] at plain
    obtain ⟨fuel, rfl⟩ : ∃ f, fuel = f + 1 := ⟨fuel - 1, by omega⟩
    simp only [membersText, commas, List.intercalate_singleton, List.length_append,
      List.length_cons, List.append_assoc, List.cons_append] at enough ⊢
    exact members_last (skip_compactChars plain.1 _)
      (readsBack first fuel _ plain.1 (by omega) (ends_cons (by simp) rest))
  | cons second more ih =>
    obtain ⟨key', v⟩ := second
    rw [membersArePlain, Bool.and_eq_true] at plain
    obtain ⟨fuel, rfl⟩ : ∃ f, fuel = f + 1 := ⟨fuel - 1, by omega⟩
    have whole : commas (membersText ((key, first) :: (key', v) :: more)) =
        stringText key ++
          ':' :: (compactChars first ++ ',' :: commas (membersText ((key', v) :: more))) := by
      simp [membersText, commas, List.intercalate_cons_cons]
    obtain ⟨tail, begins⟩ :=
      commas_begins (stringText key' ++ ':' :: compactChars v) (membersText more)
    have visible : skip (commas (membersText ((key', v) :: more)) ++ '\x7d' :: rest) =
        commas (membersText ((key', v) :: more)) ++ '\x7d' :: rest := by
      rw [membersText, begins, stringText]
      exact skip_cons (by decide) _
    rw [whole, List.length_append, List.length_cons, List.length_append,
      List.length_cons] at enough
    rw [whole, List.append_assoc, List.cons_append, List.append_assoc, List.cons_append]
    exact members_more (skip_compactChars plain.1 _)
      (readsBack first fuel _ plain.1 (by omega) (ends_cons (by simp) _)) visible
      (ih plain.2 (by omega))

theorem ReadsBack.list {depth : Nat} (readsBack : ReadsBack depth) {items : List Value}
    (plain : arePlain depth items = true) {fuel : Nat}
    (enough : 2 * (compactChars (.list items)).length ≤ fuel + 1) (rest : List Char) :
    value (fuel + 1) (depth + 1) (compactChars (.list items) ++ rest) =
      .ok (.list items, rest) := by
  cases items with
  | nil => rfl
  | cons first others =>
    have first_plain : isPlain depth first = true := by
      rw [arePlain, Bool.and_eq_true] at plain
      exact plain.1
    have whole : compactChars (.list (first :: others)) =
        '[' :: (commas (itemsText (first :: others)) ++ [']']) := by
      simp [compactChars]
    obtain ⟨tail, begins⟩ := commas_begins (compactChars first) (itemsText others)
    obtain ⟨c, more, written, visible, opens⟩ := compactChars_begins first_plain
    rw [whole, List.length_cons, List.length_append, List.length_singleton] at enough
    have read := readsBack.items plain (by omega : _ ≤ fuel) rest
    rw [whole, List.cons_append, List.append_assoc, List.singleton_append]
    rw [itemsText, begins, written, List.cons_append, List.cons_append] at read ⊢
    rw [value_list visible opens, read]
    rfl

theorem ReadsBack.object {depth : Nat} (readsBack : ReadsBack depth) {members : Members}
    (distinct : (Members.keys members).Nodup) (plain : membersArePlain depth members = true)
    {fuel : Nat} (enough : 2 * (compactChars (.object members)).length ≤ fuel + 1)
    (rest : List Char) : value (fuel + 1) (depth + 1) (compactChars (.object members) ++ rest) =
      .ok (.object members, rest) := by
  cases members with
  | nil => rfl
  | cons first others =>
    obtain ⟨key, v⟩ := first
    have whole : compactChars (.object ((key, v) :: others)) =
        '\x7b' :: (commas (membersText ((key, v) :: others)) ++ ['\x7d']) := by
      simp [compactChars]
    obtain ⟨tail, begins⟩ :=
      commas_begins (stringText key ++ ':' :: compactChars v) (membersText others)
    rw [whole, List.length_cons, List.length_append, List.length_singleton] at enough
    have read := readsBack.members plain (by omega : _ ≤ fuel) rest
    rw [whole, List.cons_append, List.append_assoc, List.singleton_append]
    rw [membersText, begins, stringText, List.cons_append, List.cons_append, List.cons_append,
      List.cons_append] at read ⊢
    rw [value_object, read]
    simp only [Except.map, ofPairs_of_nodup distinct]

theorem readsBack (depth : Nat) : ReadsBack depth := by
  induction depth using Nat.strongRecOn with
  | ind depth ih =>
    intro v fuel rest plain enough ends
    obtain ⟨c, more, written, -, -⟩ := compactChars_begins plain
    obtain ⟨fuel, rfl⟩ : ∃ f, fuel = f + 1 := by
      rw [written, List.length_cons] at enough
      exact ⟨fuel - 1, by omega⟩
    cases v with
    | null => exact value_leaf (by decide) (by decide) (by decide) fuel depth _
    | bool b => cases b <;> exact value_leaf (by decide) (by decide) (by decide) fuel depth _
    | int n => exact value_int (of_decide_eq_true (by rw [← plain, isPlain])) fuel depth ends
    | text s => exact value_text fuel depth s rest
    | list items =>
      cases depth with
      | zero => simp [isPlain] at plain
      | succ depth =>
        rw [isPlain] at plain
        exact (ih depth (Nat.lt_succ_self depth)).list plain enough rest
    | object members =>
      cases depth with
      | zero => simp [isPlain] at plain
      | succ depth =>
        rw [isPlain, Bool.and_eq_true, decide_eq_true_eq] at plain
        exact (ih depth (Nat.lt_succ_self depth)).object plain.1 plain.2 enough rest
    | _ => simp [isPlain] at plain

/-- A value that is written in compact form is read back. -/
theorem readChars_compactChars {depth : Nat} {v : Value} (plain : isPlain depth v = true) :
    readChars depth (compactChars v) = .ok v := by
  have read := readsBack depth v (2 * (compactChars v).length + 1) [] plain (by omega)
    (by simp [Ends])
  have visible := skip_compactChars plain []
  rw [List.append_nil] at read visible
  rw [readChars, visible, read]
  rfl

/-- There is always room for a list in an object. -/
theorem Nesting.exists_limit (nesting : Nesting) (source : Source) :
    ∃ depth, nesting.limit source = depth + 2 :=
  Nat.exists_eq_add_of_le' (nesting.room source)

end Json

/-- A payload that is written in compact form is read back. -/
theorem Http.Payload.value?_compact {depth : Nat} {r : Http.Request} {members : Members}
    (declares : declaresJson r = true) (body : r.body = Json.compact (.object members))
    (plain : Json.isPlain depth (.object members) = true) :
    value? depth r = .ok (some (.object members)) := by
  have written : r.body.toList = Json.compactChars (.object members) := by
    rw [body, Json.compact, String.toList_ofList]
  have read := Json.readChars_compactChars plain
  obtain ⟨rest, begins⟩ : ∃ rest, Json.compactChars (.object members) = '\x7b' :: rest :=
    ⟨_, rfl⟩
  have unmarked : r.body.toList.head? ≠ some (Char.ofNat 0xFEFF) := by
    rw [written, begins, List.head?_cons]
    decide
  have nonempty : r.body.toList.isEmpty = false := by
    rw [written, begins]
    rfl
  unfold value?
  simp only [nonempty, declares, unmarked, if_false, Bool.not_true, Bool.false_eq_true]
  rw [written, read]

end QueryDesk

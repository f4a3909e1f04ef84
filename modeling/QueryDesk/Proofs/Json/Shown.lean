import Mathlib.Algebra.GroupWithZero.Nat
import Mathlib.Data.List.TakeDrop
import QueryDesk.Json.Reader
import QueryDesk.Proofs.Query.Members
import QueryDesk.Proofs.Steps
import QueryDesk.Value.Text

/-!
# What is read from JSON has a text

A whole number has a text only if it has few enough digits, and JSON with longer ones is not read.
So every value that is read can be shown, at any depth.
-/

namespace QueryDesk

/-- The value can be shown: no whole number in it has too many digits. -/
def Value.IsShown (v : Value) : Prop :=
  v.shown?.isSome = true

theorem shownItems?_isSome_iff {items : List Value} :
    (shownItems? items).isSome = true ↔ ∀ v ∈ items, v.IsShown := by
  induction items with
  | nil => simp [shownItems?]
  | cons item rest ih =>
    rw [List.forall_mem_cons, ← ih, Value.IsShown, shownItems?]
    cases item.shown? <;> cases shownItems? rest <;> simp

theorem shownMembers?_isSome_iff {members : Members} :
    (shownMembers? members).isSome = true ↔ ∀ m ∈ members, m.2.IsShown := by
  induction members with
  | nil => simp [shownMembers?]
  | cons member rest ih =>
    obtain ⟨key, value⟩ := member
    rw [List.forall_mem_cons, ← ih, Value.IsShown, shownMembers?]
    cases value.shown? <;> cases shownMembers? rest <;> simp

namespace Value

theorem isShown_list_iff {items : List Value} :
    (list items).IsShown ↔ ∀ v ∈ items, v.IsShown := by
  rw [← shownItems?_isSome_iff, IsShown, shown?]
  cases shownItems? items <;> simp

theorem isShown_tuple_iff {items : List Value} :
    (tuple items).IsShown ↔ ∀ v ∈ items, v.IsShown := by
  rw [← shownItems?_isSome_iff, IsShown, shown?]
  rcases shownItems? items with _ | _ | ⟨_, _ | _⟩ <;> simp

theorem isShown_object_iff {members : Members} :
    (object members).IsShown ↔ ∀ m ∈ members, m.2.IsShown := by
  rw [← shownMembers?_isSome_iff, IsShown, shown?]
  cases shownMembers? members <;> simp

end Value

/-- A value that can be shown has a text. -/
theorem Value.IsShown.text?_isSome {v : Value} (shown : v.IsShown) : v.text?.isSome = true := by
  cases v with
  | text | damaged | decimal | uuid | moment | date => simp only [Value.text?, Option.isSome_some]
  | null | bool | int | float | list | tuple | object =>
    rw [Value.text?]
    · exact shown
    all_goals simp

namespace Numeral

theorem foldl_digits_lt {digits : List Char} (every : digits.all Text.isAsciiDigit = true)
    (start : Nat) : digits.foldl (fun n c => n * 10 + Text.asciiDigitValue c) start <
      (start + 1) * 10 ^ digits.length := by
  induction digits generalizing start with
  | nil => simp
  | cons c rest ih =>
    simp only [List.all_cons, Bool.and_eq_true] at every
    have digit : Text.asciiDigitValue c ≤ 9 := by
      have range := every.1
      simp only [Text.isAsciiDigit, Bool.and_eq_true, decide_eq_true_eq] at range
      unfold Text.asciiDigitValue
      omega
    calc rest.foldl (fun n c => n * 10 + Text.asciiDigitValue c)
          (start * 10 + Text.asciiDigitValue c)
        < (start * 10 + Text.asciiDigitValue c + 1) * 10 ^ rest.length := ih every.2 _
      _ ≤ ((start + 1) * 10) * 10 ^ rest.length := Nat.mul_le_mul_right _ (by omega)
      _ = (start + 1) * 10 ^ (rest.length + 1) := by rw [Nat.pow_succ', Nat.mul_assoc]

theorem natOfDigits_lt {digits : List Char} (every : digits.all Text.isAsciiDigit = true)
    {width : Nat} (short : digits.length ≤ width) : natOfDigits digits < Nat.pow 10 width := by
  have below : natOfDigits digits < 10 ^ digits.length := by
    simpa [natOfDigits] using foldl_digits_lt every 0
  exact Nat.lt_of_lt_of_le below (Nat.pow_le_pow_right (by decide) short)

end Numeral

namespace Json

theorem wholePart?_digits {cs digits rest : List Char}
    (found : wholePart? cs = some (digits, rest)) : digits.all Text.isAsciiDigit = true := by
  unfold wholePart? at found
  split at found
  · cases found
    rfl
  · simp only [List.span_eq_takeWhile_dropWhile] at found
    split at found
    · cases found
    · cases found
      simp

theorem number_isShown {cs rest : List Char} {v : Value} (read : number cs = .ok (v, rest)) :
    v.IsShown := by
  unfold number at read
  split at read
  rename_i negative unsigned sign
  split at read
  · cases read
  · rename_i whole after found
    have digits := wholePart?_digits found
    split at read
    split at read
    split at read
    · split at read
      · rename_i short
        obtain ⟨rfl, rfl⟩ := Prod.mk.inj (Except.ok.inj read)
        have small := Numeral.natOfDigits_lt digits short
        have magnitude : (Numeral.signed negative (Numeral.natOfDigits whole)).natAbs =
            Numeral.natOfDigits whole := by
          unfold Numeral.signed
          split <;> simp
        rw [Value.IsShown, Value.shown?, intText?, magnitude, if_pos small]
        rfl
      · cases read
    · obtain ⟨rfl, rfl⟩ := Prod.mk.inj (Except.ok.inj read)
      simp only [Value.IsShown, Value.shown?, Option.isSome_some]

theorem word?_isShown {cs rest : List Char} {v : Value} (found : word? cs = some (v, rest)) :
    v.IsShown := by
  obtain ⟨⟨word, value⟩, mem, begins⟩ := List.exists_of_findSome?_eq_some found
  obtain ⟨after, -, same⟩ := Option.map_eq_some_iff.mp begins
  obtain ⟨rfl, rfl⟩ := Prod.mk.inj same
  have every : ∀ w ∈ words, w.2.IsShown := by
    unfold words Value.IsShown
    decide
  exact every _ mem

/-! ## Readers -/

/-- All that a reader of values, of items and of members gives can be shown. -/
structure Shows (fuel : Nat) : Prop where
  value : ∀ {depth cs v rest}, value fuel depth cs = .ok (v, rest) → v.IsShown
  items : ∀ {depth cs vs rest}, items fuel depth cs = .ok (vs, rest) → ∀ v ∈ vs, v.IsShown
  members : ∀ {depth cs ms rest}, members fuel depth cs = .ok (ms, rest) → ∀ m ∈ ms, m.2.IsShown

theorem Shows.value_succ {fuel : Nat} (shows : Shows fuel) {depth : Nat} {cs rest : List Char}
    {v : Value} (read : Json.value (fuel + 1) depth cs = .ok (v, rest)) : v.IsShown := by
  unfold Json.value at read
  split at read
  · obtain ⟨⟨⟨s, isDamaged⟩, after⟩, -, done⟩ := bind_eq_ok_iff.mp read
    obtain ⟨rfl, -⟩ := Prod.mk.inj (Except.ok.inj done)
    cases isDamaged <;> simp only [Value.IsShown, Value.shown?, Option.isSome_some, if_true,
      if_false, Bool.false_eq_true]
  · cases read
  · cases read
  · split at read
    · obtain ⟨rfl, -⟩ := Prod.mk.inj (Except.ok.inj read)
      exact Value.isShown_object_iff.mpr (by simp)
    · obtain ⟨⟨pairs, after⟩, inner, done⟩ := bind_eq_ok_iff.mp read
      obtain ⟨rfl, -⟩ := Prod.mk.inj (Except.ok.inj done)
      exact Value.isShown_object_iff.mpr (Members.forall_mem_write (by simp) (shows.members inner))
  · split at read
    · obtain ⟨rfl, -⟩ := Prod.mk.inj (Except.ok.inj read)
      exact Value.isShown_list_iff.mpr (by simp)
    · obtain ⟨⟨values, after⟩, inner, done⟩ := bind_eq_ok_iff.mp read
      obtain ⟨rfl, -⟩ := Prod.mk.inj (Except.ok.inj done)
      exact Value.isShown_list_iff.mpr (shows.items inner)
  · split at read
    · rename_i found word
      rw [Except.ok.inj read] at word
      exact word?_isShown word
    · exact number_isShown read

theorem Shows.items_succ {fuel : Nat} (shows : Shows fuel) {depth : Nat} {cs rest : List Char}
    {vs : List Value} (read : Json.items (fuel + 1) depth cs = .ok (vs, rest)) :
    ∀ v ∈ vs, v.IsShown := by
  unfold Json.items at read
  obtain ⟨⟨first, after⟩, own, next⟩ := bind_eq_ok_iff.mp read
  have shown := shows.value own
  dsimp only at next
  split at next
  · obtain ⟨rfl, -⟩ := Prod.mk.inj (Except.ok.inj next)
    simpa using shown
  · obtain ⟨⟨others, after⟩, more, done⟩ := bind_eq_ok_iff.mp next
    obtain ⟨rfl, -⟩ := Prod.mk.inj (Except.ok.inj done)
    rw [List.forall_mem_cons]
    exact ⟨shown, shows.items more⟩
  · cases next

theorem Shows.members_succ {fuel : Nat} (shows : Shows fuel) {depth : Nat} {cs rest : List Char}
    {ms : Members} (read : Json.members (fuel + 1) depth cs = .ok (ms, rest)) :
    ∀ m ∈ ms, m.2.IsShown := by
  unfold Json.members at read
  split at read
  · obtain ⟨⟨⟨key, isDamaged⟩, after⟩, -, next⟩ := bind_eq_ok_iff.mp read
    dsimp only at next
    split at next
    · obtain ⟨⟨first, after⟩, own, next⟩ := bind_eq_ok_iff.mp next
      have shown := shows.value own
      dsimp only at next
      split at next
      · obtain ⟨rfl, -⟩ := Prod.mk.inj (Except.ok.inj next)
        simpa using shown
      · obtain ⟨⟨others, after⟩, more, done⟩ := bind_eq_ok_iff.mp next
        obtain ⟨rfl, -⟩ := Prod.mk.inj (Except.ok.inj done)
        rw [List.forall_mem_cons]
        exact ⟨shown, shows.members more⟩
      · cases next
    · cases next
  · cases read

theorem shows (fuel : Nat) : Shows fuel := by
  induction fuel with
  | zero =>
    constructor
    · intro depth cs v rest read
      simp [Json.value, faultAt] at read
    · intro depth cs vs rest read
      simp [Json.items, faultAt] at read
    · intro depth cs ms rest read
      simp [Json.members, faultAt] at read
  | succ fuel ih => exact ⟨ih.value_succ, ih.items_succ, ih.members_succ⟩

/-- What is read from a text can be shown. -/
theorem readChars_isShown {depth : Nat} {cs : List Char} {v : Value}
    (read : readChars depth cs = .ok v) : v.IsShown := by
  obtain ⟨⟨found, rest⟩, own, next⟩ := bind_eq_ok_iff.mp read
  dsimp only at next
  split at next
  · obtain rfl := Except.ok.inj next
    exact (shows _).value own
  · cases next

end Json

end QueryDesk

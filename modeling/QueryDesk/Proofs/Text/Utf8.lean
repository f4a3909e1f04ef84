import QueryDesk.Text.Utf8

/-!
# Reading UTF-8 back

The bytes of a text are read as its characters, whatever follows them, with no damaged stretch.
-/

namespace QueryDesk.Text.Utf8

variable {a b d e : UInt8} {c : Char} (rest : List UInt8)

/-! ## Bytes that go on -/

section

variable {value seen missing low high : Nat}

/-- A byte that goes on with a sequence, but does not end it. -/
theorem piecesAfter_inner (lower : low ≤ b.toNat) (upper : b.toNat ≤ high) (inner : 1 < missing) :
    piecesAfter (some ⟨value, seen, missing, low, high⟩) (b :: rest) = piecesAfter
      (some ⟨value * 64 + (b.toNat - 0x80), seen + 1, missing - 1, 0x80, 0xBF⟩) rest := by
  simp [piecesAfter, feed, lower, upper, Nat.not_le.mpr inner]

/-- A byte that ends a sequence. -/
theorem piecesAfter_last (lower : low ≤ b.toNat) (upper : b.toNat ≤ high)
    (same : value * 64 + (b.toNat - 0x80) = c.toNat) :
    piecesAfter (some ⟨value, seen, 1, low, high⟩) (b :: rest) =
      .char c :: piecesAfter none rest := by
  simp [piecesAfter, feed, lower, upper, same]

end

/-! ## Bytes that begin -/

theorem begin_two (lower : 0xC2 ≤ a.toNat) (upper : a.toNat < 0xE0) :
    begin a = ([], some ⟨a.toNat - 0xC0, 1, 1, 0x80, 0xBF⟩) := by
  rw [begin]
  rw [if_neg (by omega), if_neg (by omega), if_pos upper]

theorem begin_three (lower : 0xE0 ≤ a.toNat) (upper : a.toNat < 0xF0) :
    begin a = ([], some ⟨a.toNat - 0xE0, 1, 2, if a.toNat = 0xE0 then 0xA0 else 0x80,
      if a.toNat = 0xED then 0x9F else 0xBF⟩) := by
  rw [begin]
  rw [if_neg (by omega), if_neg (by omega), if_neg (by omega), if_pos upper]

theorem begin_four (lower : 0xF0 ≤ a.toNat) (upper : a.toNat < 0xF5) :
    begin a = ([], some ⟨a.toNat - 0xF0, 1, 3, if a.toNat = 0xF0 then 0x90 else 0x80,
      if a.toNat = 0xF4 then 0x8F else 0xBF⟩) := by
  rw [begin]
  rw [if_neg (by omega), if_neg (by omega), if_neg (by omega), if_neg (by omega), if_pos upper]

/-! ## The bytes of a character -/

theorem piecesAfter_one (byte : a.toNat = c.toNat) (small : c.toNat < 0x80) :
    piecesAfter none (a :: rest) = .char c :: piecesAfter none rest := by
  simp [piecesAfter, feed, begin, byte, small]

theorem piecesAfter_two (first : a.toNat = c.toNat / 64 + 0xC0)
    (second : b.toNat = c.toNat % 64 + 0x80) (large : 0x80 ≤ c.toNat) (small : c.toNat < 0x800) :
    piecesAfter none (a :: b :: rest) = .char c :: piecesAfter none rest := by
  rw [piecesAfter, feed, begin_two (by omega) (by omega)]
  exact piecesAfter_last _ (by omega) (by omega) (by omega)

/-- Here the second byte has a narrower range after two of the bytes that begin: what is left out
    has a shorter sequence or is a surrogate. -/
theorem piecesAfter_three (first : a.toNat = c.toNat / 4096 + 0xE0)
    (second : b.toNat = c.toNat / 64 % 64 + 0x80) (third : d.toNat = c.toNat % 64 + 0x80)
    (large : 0x800 ≤ c.toNat) (small : c.toNat < 0x10000) (valid : c.toNat.isValidChar) :
    piecesAfter none (a :: b :: d :: rest) = .char c :: piecesAfter none rest := by
  have scalar : c.toNat < 0xD800 ∨ 0xDFFF < c.toNat := valid.imp id And.left
  rw [piecesAfter, feed, begin_three (by omega) (by omega)]
  refine (piecesAfter_inner _ ?_ ?_ (by omega)).trans ?_
  · split <;> omega
  · split <;> omega
  · exact piecesAfter_last _ (by omega) (by omega) (by omega)

theorem piecesAfter_four (first : a.toNat = c.toNat / 262144 + 0xF0)
    (second : b.toNat = c.toNat / 4096 % 64 + 0x80) (third : d.toNat = c.toNat / 64 % 64 + 0x80)
    (fourth : e.toNat = c.toNat % 64 + 0x80) (large : 0x10000 ≤ c.toNat)
    (small : c.toNat < 0x110000) :
    piecesAfter none (a :: b :: d :: e :: rest) = .char c :: piecesAfter none rest := by
  rw [piecesAfter, feed, begin_four (by omega) (by omega)]
  refine (piecesAfter_inner _ ?_ ?_ (by omega)).trans ?_
  · split <;> omega
  · split <;> omega
  · refine (piecesAfter_inner _ (by omega) (by omega) (by omega)).trans ?_
    exact piecesAfter_last _ (by omega) (by omega) (by omega)

/-! ## The bytes of a text -/

theorem piecesAfter_utf8EncodeChar (c : Char) :
    piecesAfter none (String.utf8EncodeChar c ++ rest) = .char c :: piecesAfter none rest := by
  have valid : c.toNat.isValidChar := c.valid
  have bound : c.toNat < 0x110000 := by
    rcases valid with low | ⟨-, high⟩ <;> omega
  have byte : ∀ n < 256, (UInt8.ofNat n).toNat = n := fun n small => by
    rw [UInt8.toNat_ofNat', Nat.mod_eq_of_lt small]
  have value : c.val.toNat = c.toNat := rfl
  rw [String.utf8EncodeChar]
  rw [value]
  split
  · exact piecesAfter_one _ (byte _ (by omega)) (by omega)
  split
  · refine piecesAfter_two _ ((byte _ (by omega)).trans ?_) (byte _ (by omega)) (by omega)
      (by omega)
    omega
  split
  · refine piecesAfter_three _ ((byte _ (by omega)).trans ?_) (byte _ (by omega))
      (byte _ (by omega)) (by omega) (by omega) valid
    omega
  · refine piecesAfter_four _ ((byte _ (by omega)).trans ?_) (byte _ (by omega))
      (byte _ (by omega)) (byte _ (by omega)) (by omega) bound
    omega

/-- The bytes of a text are read as its characters. -/
theorem pieces_encode (cs : List Char) : pieces (encode cs) = cs.map .char := by
  induction cs with
  | nil => rfl
  | cons c cs ih =>
    rw [encode, List.flatMap_cons, pieces, piecesAfter_utf8EncodeChar, List.map_cons]
    exact congrArg _ ih

theorem decodeLossy_encode (cs : List Char) : decodeLossy (encode cs) = cs := by
  rw [decodeLossy, pieces_encode, List.map_map]
  exact List.map_id cs

theorem charsOf_chars (position : Nat) (cs : List Char) :
    charsOf position (cs.map .char) = .ok cs := by
  induction cs generalizing position with
  | nil => rfl
  | cons c cs ih =>
    rw [List.map_cons, charsOf, ih]
    rfl

theorem decode_encode (cs : List Char) : decode (encode cs) = .ok cs := by
  rw [decode, pieces_encode, charsOf_chars]

end QueryDesk.Text.Utf8

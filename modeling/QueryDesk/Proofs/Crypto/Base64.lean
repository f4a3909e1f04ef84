import QueryDesk.Crypto.Base64

/-!
# Reading base64 back

Bytes that are written in the alphabet for addresses are read back, and no character of them is a
point.
-/

namespace QueryDesk.Base64

/-! ## Characters -/

theorem value?_digit : ∀ n < 64, value? '+' '/' (fromUrl (digit '-' '_' n)) = some n := by
  decide

theorem digit_ne_pad : ∀ n < 64, fromUrl (digit '-' '_' n) ≠ '=' := by
  decide

theorem digit_ne_point : ∀ n < 64, digit '-' '_' n ≠ '.' := by
  decide

/-- A character of the alphabet goes on with a group. -/
theorem decodeFrom_digit {n : Nat} (small : n < 64) (g : Group) (rest : List Char) :
    decodeFrom '+' '/' g (fromUrl (digit '-' '_' n) :: rest) =
      match g.count with
      | 0 => decodeFrom '+' '/' ⟨1, n, 0⟩ rest
      | 1 => (decodeFrom '+' '/' ⟨2, (g.pending * 64 + n) % 16, 0⟩ rest).map
          (UInt8.ofNat ((g.pending * 64 + n) / 16) :: ·)
      | 2 => (decodeFrom '+' '/' ⟨3, (g.pending * 64 + n) % 4, 0⟩ rest).map
          (UInt8.ofNat ((g.pending * 64 + n) / 4) :: ·)
      | _ => (decodeFrom '+' '/' ⟨0, 0, 0⟩ rest).map (UInt8.ofNat (g.pending * 64 + n) :: ·) := by
  obtain ⟨count, pending, pads⟩ := g
  rcases count with _ | _ | _ | count <;>
    simp only [decodeFrom, digit_ne_pad n small, value?_digit n small, if_false]

/-- Two characters begin a group with a byte. -/
theorem decodeFrom_two {m n : Nat} (small : m < 64) (small' : n < 64) (byte : UInt8)
    (same : (m * 64 + n) / 16 = byte.toNat) (rest : List Char) :
    decodeFrom '+' '/' {} (fromUrl (digit '-' '_' m) :: fromUrl (digit '-' '_' n) :: rest) =
      (decodeFrom '+' '/' ⟨2, n % 16, 0⟩ rest).map (byte :: ·) := by
  have pending : (m * 64 + n) % 16 = n % 16 := by omega
  have value : UInt8.ofNat ((m * 64 + n) / 16) = byte := by rw [same, UInt8.ofNat_toNat]
  rw [decodeFrom_digit small, ← pending, ← value]
  exact decodeFrom_digit small' ⟨1, m, 0⟩ rest

/-- A third character gives another byte. -/
theorem decodeFrom_third {v n : Nat} (small : n < 64) (byte : UInt8)
    (same : (v * 64 + n) / 4 = byte.toNat) (rest : List Char) :
    decodeFrom '+' '/' ⟨2, v, 0⟩ (fromUrl (digit '-' '_' n) :: rest) =
      (decodeFrom '+' '/' ⟨3, n % 4, 0⟩ rest).map (byte :: ·) := by
  have pending : (v * 64 + n) % 4 = n % 4 := by omega
  have value : UInt8.ofNat ((v * 64 + n) / 4) = byte := by rw [same, UInt8.ofNat_toNat]
  rw [← pending, ← value]
  exact decodeFrom_digit small ⟨2, v, 0⟩ rest

/-- A fourth one gives the last. -/
theorem decodeFrom_fourth {v n : Nat} (small : n < 64) (byte : UInt8)
    (same : v * 64 + n = byte.toNat) (rest : List Char) :
    decodeFrom '+' '/' ⟨3, v, 0⟩ (fromUrl (digit '-' '_' n) :: rest) =
      (decodeFrom '+' '/' {} rest).map (byte :: ·) := by
  have value : UInt8.ofNat (v * 64 + n) = byte := by rw [same, UInt8.ofNat_toNat]
  rw [← value]
  exact decodeFrom_digit small ⟨3, v, 0⟩ rest

/-! ## Groups -/

/-- A whole group is three bytes. -/
theorem decodeFrom_group (a b c : UInt8) (rest : List UInt8) (more : List Char) :
    decodeFrom '+' '/' {} ((encode '-' '_' (a :: b :: c :: rest) ++ more).map fromUrl) =
      (decodeFrom '+' '/' {} ((encode '-' '_' rest ++ more).map fromUrl)).map
        (a :: b :: c :: ·) := by
  have a_small := a.toNat_lt
  have b_small := b.toNat_lt
  have c_small := c.toNat_lt
  simp only [encode, List.cons_append, List.map_cons]
  rw [decodeFrom_two (by omega) (by omega) a (by omega),
    decodeFrom_third (by omega) b (by omega),
    decodeFrom_fourth (by omega) c (by omega), Option.map_map, Option.map_map]
  rfl

theorem length_encode_group (a b c : UInt8) (rest : List UInt8) :
    (encode '-' '_' (a :: b :: c :: rest)).length = (encode '-' '_' rest).length + 4 := rfl

/-- What is written is read back. -/
theorem decodeUrl_encodeUrl (bytes : List UInt8) : decodeUrl (encodeUrl bytes) = some bytes := by
  rw [decodeUrl, encodeUrl, decode]
  induction bytes using encode.induct with
  | case1 a b c rest ih =>
    have pads : (4 - ((encode '-' '_' rest).length + 4) % 4) % 4 =
        (4 - (encode '-' '_' rest).length % 4) % 4 := by omega
    rw [padded, length_encode_group, pads, decodeFrom_group]
    rw [padded] at ih
    rw [ih]
    rfl
  | case2 a b =>
    have a_small := a.toNat_lt
    have b_small := b.toNat_lt
    simp only [padded, encode, List.length_cons, List.length_nil, List.cons_append, List.nil_append,
      List.map_cons]
    rw [decodeFrom_two (by omega) (by omega) a (by omega),
      decodeFrom_third (by omega) b (by omega)]
    rfl
  | case3 a =>
    have a_small := a.toNat_lt
    simp only [padded, encode, List.length_cons, List.length_nil, List.cons_append, List.nil_append,
      List.map_cons]
    rw [decodeFrom_two (by omega) (by omega) a (by omega)]
    rfl
  | case4 => rfl

theorem point_notMem_encodeUrl (bytes : List UInt8) : '.' ∉ encodeUrl bytes := by
  have other {n : Nat} (small : n < 64) : '.' ≠ digit '-' '_' n := (digit_ne_point n small).symm
  rw [encodeUrl]
  induction bytes using encode.induct with
  | case1 a b c rest ih =>
    have a_small := a.toNat_lt
    have b_small := b.toNat_lt
    have c_small := c.toNat_lt
    simp only [encode, List.mem_cons, not_or]
    exact ⟨other (by omega), other (by omega), other (by omega), other (by omega), ih⟩
  | case2 a b =>
    have a_small := a.toNat_lt
    have b_small := b.toNat_lt
    simp only [encode, List.mem_cons, not_or]
    exact ⟨other (by omega), other (by omega), other (by omega), List.not_mem_nil⟩
  | case3 a =>
    have a_small := a.toNat_lt
    simp only [encode, List.mem_cons, not_or]
    exact ⟨other (by omega), other (by omega), List.not_mem_nil⟩
  | case4 => exact List.not_mem_nil

end QueryDesk.Base64

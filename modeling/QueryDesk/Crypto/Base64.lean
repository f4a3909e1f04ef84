/-!
# Base64

Three bytes are four characters of an alphabet of sixty-four. The reader passes over characters that
are not of the alphabet and stops where padding completes a group.
-/

namespace QueryDesk.Base64

/-- The character of a value below sixty-four; `c62` and `c63` stand for the last two. -/
def digit (c62 c63 : Char) (n : Nat) : Char :=
  if n < 26 then Char.ofNat (65 + n)
  else if n < 52 then Char.ofNat (71 + n)
  else if n < 62 then Char.ofNat (n - 4)
  else if n = 62 then c62
  else c63

/-- The value of a character. -/
def value? (c62 c63 : Char) (c : Char) : Option Nat :=
  let n := c.toNat
  if 65 ≤ n && n ≤ 90 then some (n - 65)
  else if 97 ≤ n && n ≤ 122 then some (n - 71)
  else if 48 ≤ n && n ≤ 57 then some (n + 4)
  else if c = c62 then some 62
  else if c = c63 then some 63
  else none

/-- Writes bytes without padding. -/
def encode (c62 c63 : Char) : List UInt8 → List Char
  | a :: b :: c :: rest =>
    let n := (a.toNat * 256 + b.toNat) * 256 + c.toNat
    digit c62 c63 (n / 262144) :: digit c62 c63 (n / 4096 % 64) :: digit c62 c63 (n / 64 % 64) ::
      digit c62 c63 (n % 64) :: encode c62 c63 rest
  | [a, b] =>
    let n := (a.toNat * 256 + b.toNat) * 4
    [digit c62 c63 (n / 4096), digit c62 c63 (n / 64 % 64), digit c62 c63 (n % 64)]
  | [a] =>
    let n := a.toNat * 16
    [digit c62 c63 (n / 64), digit c62 c63 (n % 64)]
  | [] => []

/-- How far a group of four characters has been read. -/
structure Group where
  /-- The number of characters read. -/
  count : Nat := 0
  /-- The bits that are no part of a byte yet. -/
  pending : Nat := 0
  /-- The number of padding characters since the last character of the alphabet. -/
  pads : Nat := 0

/-- Reads characters on from within a group. It fails when they end within a group. -/
def decodeFrom (c62 c63 : Char) (g : Group) : List Char → Option (List UInt8)
  | [] => if g.count = 0 then some [] else none
  | c :: rest =>
    if c = '=' then
      if 2 ≤ g.count then
        if 4 ≤ g.count + g.pads + 1 then some []
        else decodeFrom c62 c63 { g with pads := g.pads + 1 } rest
      else decodeFrom c62 c63 g rest
    else match value? c62 c63 c with
      | none => decodeFrom c62 c63 g rest
      | some v =>
        let bits := g.pending * 64 + v
        match g.count with
        | 0 => decodeFrom c62 c63 ⟨1, v, 0⟩ rest
        | 1 => (decodeFrom c62 c63 ⟨2, bits % 16, 0⟩ rest).map (UInt8.ofNat (bits / 16) :: ·)
        | 2 => (decodeFrom c62 c63 ⟨3, bits % 4, 0⟩ rest).map (UInt8.ofNat (bits / 4) :: ·)
        | _ => (decodeFrom c62 c63 ⟨0, 0, 0⟩ rest).map (UInt8.ofNat bits :: ·)

/-- Reads characters. -/
def decode (c62 c63 : Char) (cs : List Char) : Option (List UInt8) :=
  decodeFrom c62 c63 {} cs

/-- The alphabet for addresses. -/
def encodeUrl : List UInt8 → List Char :=
  encode '-' '_'

/-- Characters with the padding that completes their last group of four. -/
def padded (cs : List Char) : List Char :=
  cs ++ List.replicate ((4 - cs.length % 4) % 4) '='

/-- The characters of the address alphabet as those of the plain one. -/
def fromUrl (c : Char) : Char :=
  if c = '-' then '+' else if c = '_' then '/' else c

/-- Reads the alphabet for addresses, or the plain one, without padding. -/
def decodeUrl (cs : List Char) : Option (List UInt8) :=
  decode '+' '/' ((padded cs).map fromUrl)

end QueryDesk.Base64

import QueryDesk.Crypto.Base64
import QueryDesk.Text.Charset
import QueryDesk.Text.Segments

/-!
# Encoded words

A header carries other characters than those of ASCII in encoded words. An encoded word names a
character set, a scheme and the encoded bytes, as in `=?utf-8?q?caf=C3=A9?=`. In the scheme Q a byte
is itself, an underscore for a space, or an equals sign with two hexadecimal digits; the scheme B is
Base64.
-/

namespace QueryDesk.EncodedWord

open Text (Glyph Charset)

/-- What every encoded word begins with. -/
def opening : List Glyph := [.char '=', .char '?']

/-- What every encoded word ends with. -/
def closing : List Glyph := [.char '?', .char '=']

/-- An encoded word may begin here. -/
def mayBegin (gs : List Glyph) : Bool :=
  opening.isPrefixOf gs

/-- The byte that a glyph of ASCII, or a byte on its own, stands for. -/
def byte? : Glyph → Option UInt8
  | .char c => if c.toNat < 0x80 then some (UInt8.ofNat c.toNat) else none
  | .byte b => some b

/-- The value of a byte that is a hexadecimal digit. -/
def hexByte? (b : UInt8) : Option Nat :=
  Text.hexValue? (Char.ofNat b.toNat)

/-- Decodes the scheme Q. -/
def quoted : List UInt8 → List UInt8
  | a :: b :: c :: rest =>
    match if a = 0x3D then hexByte? b else none, hexByte? c with
    | some x, some y => UInt8.ofNat (x * 16 + y) :: quoted rest
    | _, _ => (if a = 0x5F then 0x20 else a) :: quoted (b :: c :: rest)
  | a :: rest => (if a = 0x5F then 0x20 else a) :: quoted rest
  | [] => []

/-- Decodes the scheme B. Padding may be missing; bytes that cannot be completed stay. -/
def binary (bs : List UInt8) : List UInt8 :=
  let cs := bs.map fun b => Char.ofNat b.toNat
  ((Base64.decode '+' '/' cs).or (Base64.decode '+' '/' (cs ++ ['=', '=']))).getD bs

/-- Decodes bytes in the scheme of a letter. -/
def unwrap? (scheme : Char) (bs : List UInt8) : Option (List UInt8) :=
  if scheme = 'q' || scheme = 'Q' then some (quoted bs)
  else if scheme = 'b' || scheme = 'B' then some (binary bs)
  else none

/-- The character of a glyph. -/
def char? : Glyph → Option Char
  | .char c => some c
  | .byte _ => none

/-- The character set that a word names; a language may follow after a star. An unknown set is taken
    to be ASCII. No set is named by a text with a null character. -/
def charset? (gs : List Glyph) : Option Charset :=
  let name := gs.takeWhile (· ≠ .char '*')
  if name.contains (.char (Char.ofNat 0)) then none
  else some (((name.mapM char?).bind Charset.named?).getD .ascii)

/-- What the inside of an encoded word says. -/
def decode? (inside : List Glyph) : Option (List Glyph) :=
  match Text.splitAt (.char '?') inside with
  | [set, [.char scheme], body] => do
    let bs ← unwrap? scheme (← body.mapM byte?)
    return (← charset? set).read bs
  | _ => none

/-- A hexadecimal digit. -/
def isHex (g : Glyph) : Bool :=
  g.isIn fun c => (Text.hexValue? c).isSome

/-- The inside of the encoded word at the front, and what follows it. The mark that ends a word also
    ends the scheme of one whose bytes begin with an escape; it is not taken for the end then. -/
def inside? (gs : List Glyph) : Option (List Glyph × List Glyph) := do
  let (inside, rest) ← Text.cut? closing (← opening.isPrefixOf? gs)
  match rest with
  | a :: b :: _ =>
    if isHex a && isHex b && inside.count (.char '?') < 2 then
      let (more, rest) := (Text.cut? closing rest).getD (rest, [])
      return (inside ++ closing ++ more, rest)
    else return (inside, rest)
  | _ => return (inside, rest)

/-- Reads the encoded word at the front: what it says, and what follows it. -/
def read? (gs : List Glyph) : Option (List Glyph × List Glyph) := do
  let (inside, rest) ← inside? gs
  return (← decode? inside, rest)

/-- An encoded word with a known scheme stands at the front. -/
def standsHere (gs : List Glyph) : Bool :=
  match opening.isPrefixOf? gs with
  | none => false
  | some rest =>
    match rest.dropWhile (· ≠ .char '?') with
    | _ :: .char scheme :: .char '?' :: rest =>
      (scheme == 'q' || scheme == 'Q' || scheme == 'b' || scheme == 'B') &&
        Text.occurs closing rest
    | _ => false

/-- An encoded word with a known scheme stands somewhere. -/
def occurs : List Glyph → Bool
  | [] => false
  | g :: rest => standsHere (g :: rest) || occurs rest

end QueryDesk.EncodedWord

import QueryDesk.Text.Blank
import QueryDesk.Text.Utf8

/-!
# Salvaged text

Text that was read from bytes of a named character set may hold bytes that the set does not account
for. They are kept beside the characters, since bytes that come from different places may be a
character together, and are only replaced when the whole text is shown.
-/

namespace QueryDesk.Text

/-- A character, or a byte that no character set accounts for. -/
inductive Glyph where
  | char (c : Char)
  | byte (b : UInt8)
  deriving DecidableEq, Repr

namespace Glyph

/-- The glyphs of a text. -/
def ofChars (cs : List Char) : List Glyph :=
  cs.map .char

/-- The glyph is a character of a class. -/
def isIn (p : Char → Bool) : Glyph → Bool
  | .char c => p c
  | .byte _ => false

/-- The bytes of a glyph in UTF-8. -/
def bytes : Glyph → List UInt8
  | .char c => String.utf8EncodeChar c
  | .byte b => [b]

/-- The text that glyphs show: bytes that are UTF-8 together are read so, others are replaced. -/
def shown (gs : List Glyph) : String :=
  String.ofList (Utf8.decodeLossy (gs.flatMap bytes))

/-- Bytes as glyphs, those that no character set accounts for. -/
def ofBytes (bs : List UInt8) : List Glyph :=
  bs.map .byte

/-- Bytes of UTF-8 as glyphs, according to the pieces they consist of. -/
def ofPieces : List Utf8.Piece → List UInt8 → List Glyph
  | [], _ => []
  | .char c :: rest, bs => .char c :: ofPieces rest (bs.drop c.utf8Size)
  | .damaged length _ :: rest, bs => ofBytes (bs.take length) ++ ofPieces rest (bs.drop length)

/-- Reads bytes as UTF-8 and keeps those that are no part of a character. -/
def ofUtf8 (bs : List UInt8) : List Glyph :=
  ofPieces (Utf8.pieces bs) bs

end Glyph

end QueryDesk.Text

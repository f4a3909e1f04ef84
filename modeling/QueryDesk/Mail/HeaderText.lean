import QueryDesk.Mail.EncodedWord

/-!
# Free text in headers

The text of a header is what its encoded words say and what stands between them. Blanks between two
encoded words only part them and are no text.
-/

namespace QueryDesk.HeaderText

open Text (Glyph)

/-- A space or a tab. -/
def isSpace (g : Glyph) : Bool :=
  g.isIn fun c => c == ' ' || c == '\t'

/-- White space of any script. -/
def isBlank (g : Glyph) : Bool :=
  g.isIn Text.isBlank

/-- A stretch of a header. -/
inductive Piece where
  | blanks (gs : List Glyph)
  /-- What an encoded word says. -/
  | word (gs : List Glyph)
  | plain (gs : List Glyph)
  deriving DecidableEq, Repr

/-- The text of pieces. -/
def join : List Piece → List Glyph
  | [] => []
  | .word a :: .blanks _ :: .word b :: rest => a ++ join (.word b :: rest)
  | .word gs :: rest | .blanks gs :: rest | .plain gs :: rest => gs ++ join rest

/-- The plain text at the front. It ends where blanks begin, or before an encoded word within. -/
def plainStretch (gs : List Glyph) : List Glyph :=
  let stretch := gs.takeWhile (!isSpace ·)
  if EncodedWord.mayBegin gs || !EncodedWord.occurs stretch then stretch
  else ((Text.cut? EncodedWord.opening stretch).map Prod.fst).getD stretch

/-- The piece at the front of a text that is not empty, and what follows it. -/
def piece (gs : List Glyph) : Piece × List Glyph :=
  if gs.head?.any isSpace then
    (.blanks (gs.takeWhile isBlank), gs.dropWhile isBlank)
  else match EncodedWord.read? gs with
    | some (said, rest) => (.word said, rest)
    | none =>
      let stretch := plainStretch gs
      (.plain stretch, gs.drop stretch.length)

/-- The pieces of a text; `fuel` bounds their number. -/
def pieces : (fuel : Nat) → List Glyph → List Piece
  | 0, _ => []
  | _, [] => []
  | fuel + 1, gs =>
    let (first, rest) := piece gs
    first :: pieces fuel rest

/-- A text as it is read from a header. -/
def read (s : String) : String :=
  let gs := Glyph.ofChars s.toList
  Glyph.shown (join (pieces gs.length gs))

end QueryDesk.HeaderText

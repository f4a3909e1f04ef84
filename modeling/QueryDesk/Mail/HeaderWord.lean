import QueryDesk.Mail.HeaderText

/-!
# Words of address headers

An address header consists of words and special characters. A word is an atom, a quoted string or an
encoded word. Blanks and comments may stand around it; comments nest.
-/

namespace QueryDesk

open Text (Glyph)

/-- Why the value of a header is refused. -/
inductive HeaderFault where
  /-- The value has a second line. -/
  | secondLine
  /-- An address breaks off where a part of it has to begin. -/
  | brokenOff
  /-- A name or a local part has no word at all. -/
  | noWord
  /-- A name that blanks stand before begins with a point. -/
  | pointAfterBlanks
  /-- A name begins or ends with a point. -/
  | pointAtEdge
  /-- A literal domain is not closed. -/
  | openLiteral
  /-- Something follows a group of addresses. -/
  | afterGroup
  /-- A part of an address holds the end of a line. -/
  | lineEnd
  deriving DecidableEq, Repr

/-- The reason that a delivery gives for a header that is refused. -/
def HeaderFault.reason : HeaderFault → String
  | secondLine => "Header values may not contain linefeed or carriage return characters"
  | brokenOff => "string index out of range"
  | noWord => "list index out of range"
  | pointAfterBlanks => "'ValueTerminal' object does not support item assignment"
  | pointAtEdge => "'str' object has no attribute 'token_type'"
  | openLiteral => "'InvalidHeaderDefect' object has no attribute 'all_defects'"
  | afterGroup => "'Group' object has no attribute 'local_part'"
  | lineEnd => "invalid arguments; address parts cannot contain CR or LF"

namespace HeaderWord

open HeaderText (isSpace isBlank Piece)

/-- A character with a meaning of its own in address headers. -/
def isSpecialChar (c : Char) : Bool :=
  "()<>@,:;.\\\"[]".toList.contains c

/-- A special character. -/
def isSpecial (g : Glyph) : Bool :=
  g.isIn isSpecialChar

/-- What ends an atom. -/
def endsAtom (g : Glyph) : Bool :=
  isSpace g || isSpecial g

/-- What ends a sequence of words: all special characters but points, quotes and those that open a
    comment. -/
def endsWords (g : Glyph) : Bool :=
  g.isIn fun c => isSpecialChar c && c != '.' && c != '"' && c != '('

/-- A text in quotes; the quote and the backslash within are escaped. -/
def quote (gs : List Glyph) : List Glyph :=
  .char '"' :: gs.flatMap (fun g =>
    if g = .char '"' || g = .char '\\' then [.char '\\', g] else [g]) ++ [.char '"']

/-- Where a stretch of blanks and comments has come to. -/
inductive Gap where
  /-- A comment has ended, or nothing has begun. -/
  | between
  | blanks
  /-- Within comments, perhaps after a backslash. -/
  | comment (depth : Nat) (escaped : Bool)
  deriving DecidableEq, Repr

/-- The blanks and comments at the front, and what follows. A comment that is not closed takes
    everything. -/
def gapFrom : Gap → List Glyph → List Glyph × List Glyph
  | _, [] => ([], [])
  | .comment depth escaped, g :: rest =>
    let next : Gap :=
      if isSpace g || escaped then .comment depth false
      else if g = .char '\\' then .comment depth true
      else if g = .char '(' then .comment (depth + 1) false
      else if g = .char ')' then if depth ≤ 1 then .between else .comment (depth - 1) false
      else .comment depth false
    let (gap, rest) := gapFrom next rest
    (g :: gap, rest)
  | state, g :: rest =>
    if isSpace g || (state = .blanks && isBlank g) then
      let (gap, rest) := gapFrom .blanks rest
      (g :: gap, rest)
    else if g = .char '(' then
      let (gap, rest) := gapFrom (.comment 1 false) rest
      (g :: gap, rest)
    else ([], g :: rest)

/-- The blanks and comments at the front, and what follows. -/
def gap (gs : List Glyph) : List Glyph × List Glyph :=
  gapFrom .between gs

/-- What follows the blanks and comments at the front. -/
def skipGap (gs : List Glyph) : List Glyph :=
  (gap gs).2

/-- A stretch of text up to blanks or to one of the characters that end it, with its escapes
    resolved. An escape that blanks follow is lost. -/
def unescaped (ends : List Char) : (escaped : Bool) → List Glyph → List Glyph × List Glyph
  | _, [] => ([], [])
  | escaped, g :: rest =>
    if isSpace g then ([], g :: rest)
    else if !escaped && g = .char '\\' then unescaped ends true rest
    else if !escaped && g.isIn ends.contains then ([], g :: rest)
    else
      let (text, rest) := unescaped ends false rest
      (g :: text, rest)

/-- The pieces of a quoted string after its opening quote, and what follows its closing quote;
    `fuel` bounds the number of pieces. -/
def quotedPieces : (fuel : Nat) → List Glyph → List Piece × List Glyph
  | _, [] => ([], [])
  | 0, gs => ([], gs)
  | fuel + 1, g :: rest =>
    if g = .char '"' then ([], rest)
    else
      let (piece, rest) : Piece × List Glyph :=
        if isSpace g then (.blanks ((g :: rest).takeWhile isBlank), rest.dropWhile isBlank)
        else match EncodedWord.read? (g :: rest) with
          | some (said, rest) => (.word said, rest)
          | none =>
            let (text, rest) := unescaped ['"'] false (g :: rest)
            (.plain text, rest)
      let (pieces, rest) := quotedPieces fuel rest
      (piece :: pieces, rest)

/-- What an encoded word says within an address, where a run of blanks counts as one space. -/
def flattened : (afterSpace : Bool) → List Glyph → List Glyph
  | _, [] => []
  | afterSpace, g :: rest =>
    if isSpace g || (afterSpace && isBlank g) then
      if afterSpace then flattened true rest else .char ' ' :: flattened true rest
    else g :: flattened false rest

end HeaderWord

/-- A word with what stands around it. -/
structure HeaderWord where
  /-- Blanks or comments stand before the word. -/
  afterGap : Bool
  /-- What the word says. -/
  text : List Glyph
  /-- The word as it is read again within a longer local part. -/
  written : List Glyph
  /-- The word is an opening quote, or an encoded word, with nothing in it. -/
  isHollow : Bool
  /-- The blanks and comments after the word. -/
  trailing : List Glyph
  deriving DecidableEq, Repr

namespace HeaderWord

open HeaderText (isSpace isBlank Piece)

/-- A word with the gap that follows it. -/
def withGap (text written : List Glyph) (isHollow : Bool) (rest : List Glyph) :
    HeaderWord × List Glyph :=
  let (trailing, rest) := gap rest
  (⟨false, text, written, isHollow, trailing⟩, rest)

/-- The encoded word at the front. -/
def encoded? (gs : List Glyph) : Option (HeaderWord × List Glyph) :=
  (EncodedWord.read? gs).map fun (said, rest) =>
    withGap (flattened false said) said said.isEmpty rest

/-- The quoted string whose opening quote has been read. -/
def quoted (gs : List Glyph) : HeaderWord × List Glyph :=
  let (pieces, rest) := quotedPieces gs.length gs
  let text := HeaderText.join pieces
  withGap text (quote text) (pieces.isEmpty && gs.isEmpty) rest

/-- The atom or encoded word at the front. -/
def atom? (gs : List Glyph) : Option (HeaderWord × List Glyph) :=
  (encoded? gs).or
    (match gs.takeWhile (!endsAtom ·) with
      | [] => none
      | text => some (withGap text text false (gs.drop text.length)))

/-- Atoms between single points, and what follows; `afterPoint` says that an atom has to begin. -/
def dottedText : (afterPoint : Bool) → List Glyph → Option (List Glyph × List Glyph)
  | afterPoint, [] => if afterPoint then none else some ([], [])
  | afterPoint, g :: rest =>
    if !endsAtom g then (dottedText false rest).map fun (text, rest) => (g :: text, rest)
    else if afterPoint then none
    else if g = .char '.' then (dottedText true rest).map fun (text, rest) => (g :: text, rest)
    else some ([], g :: rest)

/-- The encoded word, or the atoms between points, at the front. -/
def dotted? (gs : List Glyph) : Option (HeaderWord × List Glyph) :=
  (encoded? gs).or ((dottedText true gs).map fun (text, rest) => withGap text text false rest)

/-- The word at the front, no gap before it. -/
def bare? : List Glyph → Option (HeaderWord × List Glyph)
  | [] => none
  | g :: rest =>
    if g = .char '"' then some (quoted rest)
    else if isSpecial g then none
    else atom? (g :: rest)

/-- The word at the front. -/
def read? (gs : List Glyph) : Option (HeaderWord × List Glyph) :=
  let (before, rest) := gap gs
  (bare? rest).map fun (word, rest) => ({ word with afterGap := !before.isEmpty }, rest)

end HeaderWord

end QueryDesk

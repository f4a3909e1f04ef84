import QueryDesk.Mail.HeaderWord

/-!
# Mailboxes

A mailbox has a local part and, after an at sign, a domain. It may stand in angle brackets after a
name. Reading is lenient: a local part may lack its domain, words may follow one another without
points, and a bracket may be missing.
-/

namespace QueryDesk

open Text (Glyph)

/-- A part of a sequence of words. -/
inductive WordPart where
  | point
  | backslash
  /-- Blanks and comments on their own. -/
  | gap
  | word (w : HeaderWord)
  deriving DecidableEq, Repr

namespace WordPart

/-- The words, points and gaps at the front, and what follows them; backslashes may count as parts
    too, and `fuel` bounds the number of parts. -/
def sequence (backslashes : Bool) : (fuel : Nat) → List Glyph → List WordPart × List Glyph
  | 0, gs => ([], gs)
  | _, [] => ([], [])
  | fuel + 1, g :: rest =>
    let found? : Option (WordPart × List Glyph) :=
      if backslashes && g = .char '\\' then some (.backslash, rest)
      else if HeaderWord.endsWords g then none
      else if g = .char '.' then some (.point, rest)
      else match HeaderWord.read? (g :: rest) with
        | some (w, rest) => some (.word w, rest)
        | none => some (.gap, HeaderWord.skipGap (g :: rest))
    match found? with
    | none => ([], g :: rest)
    | some (part, rest) =>
      let (parts, rest) := sequence backslashes fuel rest
      (part :: parts, rest)

/-- The words, points and gaps at the front of a text, and what follows them. -/
def phrase (gs : List Glyph) : List WordPart × List Glyph :=
  sequence false gs.length gs

/-- A space, if there is something to stand for. -/
def space (present : Bool) : List Glyph :=
  if present then [.char ' '] else []

/-- The text of a part, with a space for each gap. -/
def text : WordPart → List Glyph
  | point => [.char '.']
  | backslash => [.char '\\']
  | gap => [.char ' ']
  | word w => space w.afterGap ++ w.text ++ space (!w.trailing.isEmpty)

/-- The text of the parts of a name, given in reverse, without the gap at its end. -/
def nameBackwards : List WordPart → Except HeaderFault (List Glyph)
  | [] => .error .noWord
  | gap :: rest => .ok (rest.reverse.flatMap text)
  | word w :: rest => .ok ((word { w with trailing := [] } :: rest).reverse.flatMap text)
  | _ => .error .pointAtEdge

/-- The name that parts spell, without the gaps at its ends. -/
def name : List WordPart → Except HeaderFault (List Glyph)
  | [] => .ok []
  | gap :: rest => nameBackwards rest.reverse
  | word w :: rest => nameBackwards (word { w with afterGap := false } :: rest).reverse
  | _ => .error .pointAtEdge

/-- A point, or nothing, comes next, gaps apart. -/
def pointNext : List WordPart → Bool
  | [] | point :: _ => true
  | gap :: rest => pointNext rest
  | _ => false

/-- The local part that parts spell: gaps count between words only, and not beside points. -/
def localText : (afterPoint : Bool) → List WordPart → List Glyph
  | _, [] => []
  | afterPoint, gap :: rest => localText afterPoint rest
  | _, point :: rest => .char '.' :: localText true rest
  | _, backslash :: rest => .char '\\' :: localText false rest
  | afterPoint, word w :: rest =>
    space (w.afterGap && !afterPoint) ++ w.text ++
      space (!w.trailing.isEmpty && !pointNext rest) ++ localText false rest

end WordPart

/-- Reading something at the front of a header: it is found, with what follows it, or nothing of the
    kind stands there, or the header is refused. -/
abbrev HeaderReading := OptionT (Except HeaderFault)

/-- A mailbox. Some faults of its name and its local part are met when it is shown. -/
structure Mailbox where
  name : Except HeaderFault (List Glyph) := .ok []
  localPart : Except HeaderFault (List Glyph) := .ok []
  /-- The domain; it is empty if there is none. -/
  domain : List Glyph := []

namespace Mailbox

open HeaderWord (gap skipGap endsWords)
open HeaderText (isSpace isBlank)

/-- The header is refused. -/
def refused {α : Type} (fault : HeaderFault) : HeaderReading α :=
  OptionT.lift (.error fault)

/-- The text without blanks. -/
def compact (gs : List Glyph) : List Glyph :=
  gs.filter (!isBlank ·)

/-- What follows the blanks that a space or a tab begins. -/
def skipSpaces (gs : List Glyph) : List Glyph :=
  if gs.head?.any isSpace then gs.dropWhile isBlank else gs

/-- A local part of several words, read from its written form. -/
def longLocalPart (written : List Glyph) :
    HeaderReading (Except HeaderFault (List Glyph) × List Glyph) := do
  let (parts, rest) := WordPart.sequence true written.length written
  if parts = [] || parts = [.gap] then refused .noWord
  return (.ok (WordPart.localText true parts), rest)

/-- The local part at the front. -/
def readLocalPart (gs : List Glyph) :
    HeaderReading (Except HeaderFault (List Glyph) × List Glyph) := do
  if gs.isEmpty then refused .brokenOff
  let (before, rest) := gap gs
  match rest with
  | [] => failure
  | first :: _ =>
    match (HeaderWord.dotted? rest).or (HeaderWord.bare? rest) with
    | none =>
      if first = .char '\\' || !endsWords first then longLocalPart gs else failure
    | some (w, rest) =>
      if rest.head?.any fun g => g = .char '\\' || !endsWords g then
        longLocalPart (before ++ w.written ++ w.trailing ++ rest)
      else return (if w.isHollow then .error .noWord else .ok w.text, rest)

/-- The literal domain whose opening bracket has been read; none, if it is not closed. -/
def readLiteral (gs : List Glyph) : HeaderReading (Option (List Glyph) × List Glyph) :=
  match HeaderWord.unescaped ['[', ']'] false (skipSpaces gs) with
  | (text, rest) =>
    match skipSpaces rest with
    | [] => return (none, [])
    | .char ']' :: rest => return (some (compact (.char '[' :: text ++ [.char ']'])), skipGap rest)
    | _ => failure

/-- Further labels of a domain, each after a point; `fuel` bounds their number. -/
def readLabels : (fuel : Nat) → List Glyph → HeaderReading (List Glyph × List Glyph)
  | fuel + 1, .char '.' :: rest => do
    match HeaderWord.atom? (skipGap rest) with
    | none => failure
    | some (w, rest) =>
      let (labels, rest) ← readLabels fuel rest
      return (.char '.' :: w.text ++ labels, rest)
  | _, rest => return ([], rest)

/-- The domain at the front; none, if it is a literal that is not closed. -/
def readDomain (gs : List Glyph) : HeaderReading (Option (List Glyph) × List Glyph) := do
  if gs.isEmpty then refused .brokenOff
  match skipGap gs with
  | [] => failure
  | .char '[' :: rest => readLiteral rest
  | gs =>
    match (HeaderWord.dotted? gs).or (HeaderWord.atom? gs) with
    | none => failure
    | some (w, rest) =>
      if rest.head? = some (.char '@') then failure
      else
        let (labels, rest) ← readLabels rest.length rest
        return (some (compact (w.text ++ labels)), rest)

/-- The mailbox without a name at the front. -/
def readPlain (gs : List Glyph) : HeaderReading (Mailbox × List Glyph) := do
  let (localPart, rest) ← readLocalPart gs
  match rest with
  | .char '@' :: rest =>
    match ← readDomain rest with
    | (none, _) => refused .openLiteral
    | (some domain, rest) => return ({ localPart, domain }, rest)
  | _ => return ({ localPart }, rest)

/-- What follows commas, blanks and comments; `fuel` bounds their number. -/
def skipCommas : (fuel : Nat) → List Glyph → List Glyph
  | 0, gs => gs
  | fuel + 1, gs =>
    match skipGap gs with
    | .char ',' :: rest => skipCommas fuel rest
    | gs => gs

/-- The rest of a route after a domain of it, up to its colon; `fuel` bounds the number of
    commas. -/
def readRouteEnd : (fuel : Nat) → List Glyph → HeaderReading (List Glyph)
  | _, .char ':' :: rest => return rest
  | fuel + 1, .char ',' :: rest => do
    if rest.isEmpty then failure
    match skipGap rest with
    | [] => refused .brokenOff
    | .char '@' :: rest =>
      let (_, rest) ← readDomain rest
      readRouteEnd fuel rest
    | rest => readRouteEnd fuel rest
  | _, _ => failure

/-- The route at the front: domains after at signs, which commas part and a colon ends. -/
def readRoute (gs : List Glyph) : HeaderReading (List Glyph) := do
  match skipCommas gs.length gs with
  | .char '@' :: rest =>
    let (_, rest) ← readDomain rest
    readRouteEnd rest.length rest
  | _ => failure

/-- The mailbox in angle brackets at the front. -/
def readAngled (gs : List Glyph) : HeaderReading (Mailbox × List Glyph) := do
  match skipGap gs with
  | [.char '<'] => refused .brokenOff
  | .char '<' :: .char '>' :: rest => return ({}, rest)
  | .char '<' :: rest =>
    let (mailbox, rest) ← readPlain rest <|> (do
      readPlain (← readRoute rest))
    match rest with
    | .char '>' :: rest => return (mailbox, skipGap rest)
    | _ => return (mailbox, skipGap rest)
  | _ => failure

/-- The mailbox in angle brackets at the front, with the name that may stand before it. -/
def readNamed (gs : List Glyph) : HeaderReading (Mailbox × List Glyph) := do
  let (before, rest) := gap gs
  match rest with
  | [] => failure
  | .char '<' :: _ => readAngled rest
  | first :: _ =>
    if endsWords first then failure
    let (parts, rest) := WordPart.phrase rest
    if rest.isEmpty then failure
    if !before.isEmpty && parts.head? = some .point then refused .pointAfterBlanks
    let (mailbox, rest) ← readAngled rest
    return ({ mailbox with name := WordPart.name parts }, rest)

/-- The mailbox at the front. -/
def read (gs : List Glyph) : HeaderReading (Mailbox × List Glyph) :=
  readNamed gs <|> readPlain gs

/-- A text, in quotes if it holds a character of a class. -/
def quotedIf (p : Glyph → Bool) (gs : List Glyph) : List Glyph :=
  if gs.any p then HeaderWord.quote gs else gs

/-- The text of a mailbox without its name. A mailbox that has nothing is empty. -/
def address (localPart domain : List Glyph) : List Glyph :=
  quotedIf (fun g => HeaderWord.endsAtom g && g ≠ .char '.') localPart ++
    if domain.isEmpty then [] else .char '@' :: domain

/-- The text of a mailbox. -/
def shown (m : Mailbox) : Except HeaderFault (List Glyph) := do
  let name ← m.name
  let localPart ← m.localPart
  if (name ++ localPart).any (·.isIn fun c => c == '\r' || c == '\n') then throw .lineEnd
  let name := quotedIf HeaderWord.isSpecial name
  let address := address localPart m.domain
  if name.isEmpty && !address.isEmpty then return address
  return (if name.isEmpty then [] else name ++ [.char ' ']) ++ .char '<' :: address ++ [.char '>']

end Mailbox

end QueryDesk

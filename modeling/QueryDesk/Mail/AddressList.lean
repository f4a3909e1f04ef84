import QueryDesk.Mail.Mailbox

/-!
# Address lists

The value of an address header is a list of mailboxes and groups between commas. A group has a name,
a colon, a list of mailboxes and a semicolon. What cannot be read is a mailbox with nothing in it,
and what follows an address up to the next comma is passed over. The header shows each address in
one plain form.
-/

namespace QueryDesk

open Text (Glyph)

/-- An entry of an address list. -/
inductive Address where
  | mailbox (m : Mailbox)
  | group (name : List WordPart) (members : List Mailbox)
  /-- A group that something follows. -/
  | brokenGroup (name : List WordPart)

namespace Address

open HeaderWord (gap skipGap endsWords)

/-- What follows up to one of the characters that end a mailbox; words hide those within them.
    `fuel` bounds the number of words and special characters. -/
def passOver (ends : List Char) : (fuel : Nat) → List Glyph → List Glyph
  | 0, gs => gs
  | _, [] => []
  | fuel + 1, g :: rest =>
    if g.isIn ends.contains then g :: rest
    else if endsWords g then passOver ends fuel rest
    else passOver ends fuel (WordPart.phrase (g :: rest)).2

/-- What follows up to one of the characters that end a mailbox. -/
def skipTo (ends : List Char) (gs : List Glyph) : List Glyph :=
  passOver ends gs.length gs

/-- A place where no entry can be read: the entry with nothing in it, unless the place is empty, and
    what follows. -/
def unreadable (ends : List Char) (gs : List Glyph) : List Mailbox × List Glyph :=
  match skipGap gs with
  | [] => ([], [])
  | g :: rest =>
    if g.isIn ends.contains then ([], g :: rest) else ([{}], skipTo ends (g :: rest))

/-- What follows a comma, if one comes next. -/
def afterComma : List Glyph → List Glyph
  | .char ',' :: rest => rest
  | gs => gs

/-- The mailboxes of a group up to its semicolon; `fuel` bounds their number. -/
def readMembers : (fuel : Nat) → List Glyph → Except HeaderFault (List Mailbox × List Glyph)
  | 0, gs => return ([], gs)
  | _, [] => return ([], [])
  | fuel + 1, g :: rest => do
    if g = .char ';' then return ([], g :: rest)
    let found := match ← (Mailbox.read (g :: rest)).run with
      | some (m, rest) => ([m], skipTo [',', ';'] rest)
      | none => unreadable [',', ';'] (g :: rest)
    let (members, rest) ← readMembers fuel (afterComma found.2)
    return (found.1 ++ members, rest)

/-- The group at the front. -/
def readGroup (gs : List Glyph) : HeaderReading (Address × List Glyph) := do
  let (name, rest) := WordPart.phrase gs
  match rest with
  | .char ':' :: .char ';' :: rest => return (.group name [], rest)
  | .char ':' :: rest =>
    let rest := skipGap rest
    let (members, rest) ← OptionT.lift (readMembers rest.length rest)
    return (.group name members, skipGap (rest.drop 1))
  | _ => failure

/-- The address at the front. -/
def read (gs : List Glyph) : HeaderReading (Address × List Glyph) :=
  readGroup gs <|> do
    let (m, rest) ← Mailbox.read gs
    return (.mailbox m, rest)

/-- An address that something follows. -/
def followed : Address → Address
  | group name _ => brokenGroup name
  | a => a

/-- The addresses of a list; `fuel` bounds their number. -/
def readAll : (fuel : Nat) → List Glyph → Except HeaderFault (List Address)
  | 0, _ => return []
  | _, [] => return []
  | fuel + 1, gs => do
    let (found, rest) := match ← (read gs).run with
      | some (a, []) => ([a], [])
      | some (a, .char ',' :: rest) => ([a], .char ',' :: rest)
      | some (a, rest) => ([a.followed], skipTo [','] rest)
      | none =>
        let (mailboxes, rest) := unreadable [','] gs
        (mailboxes.map mailbox, rest)
    return found ++ (← readAll fuel (afterComma rest))

/-- Texts with commas between them. -/
def joined (texts : List (List Glyph)) : List Glyph :=
  [Glyph.char ',', .char ' '].intercalate texts

/-- The text of an address. -/
def shown : Address → Except HeaderFault (List Glyph)
  | mailbox m => m.shown
  | group name members => do
    let name ← WordPart.name name
    let members := joined (← members.mapM Mailbox.shown)
    return Mailbox.quotedIf HeaderWord.isSpecial name ++ .char ':' ::
      WordPart.space (!members.isEmpty) ++ members ++ [.char ';']
  | brokenGroup name => do
    let _ ← WordPart.name name
    throw .afterGroup

/-- The value of an address header as the header shows it. -/
def normalize (s : String) : Except HeaderFault String := do
  let gs := Glyph.ofChars s.toList
  let addresses ← readAll gs.length gs
  return Glyph.shown (joined (← addresses.mapM shown))

end Address

end QueryDesk

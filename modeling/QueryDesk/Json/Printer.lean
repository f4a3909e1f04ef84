import QueryDesk.Text.Hex
import QueryDesk.Text.Segments
import QueryDesk.Value.Basic

/-!
# Writing JSON

`Json.compact` writes a JSON-ready value in ASCII and without blanks. `Json.writeFault?` says
whether a value can be sent as JSON in UTF-8.
-/

namespace QueryDesk.Json

/-- A `\u` escape. -/
def unitText (unit : Nat) : List Char :=
  '\\' :: 'u' :: Text.hexDigits 4 unit

/-- A character inside a string. -/
def charText (c : Char) : List Char :=
  if c = '"' then ['\\', '"']
  else if c = '\\' then ['\\', '\\']
  else if c = '\n' then ['\\', 'n']
  else if c = '\r' then ['\\', 'r']
  else if c = '\t' then ['\\', 't']
  else if c.toNat = 8 then ['\\', 'b']
  else if c.toNat = 12 then ['\\', 'f']
  else if 0x20 ≤ c.toNat && c.toNat ≤ 0x7E then [c]
  else if c.toNat < 0x10000 then unitText c.toNat
  else
    let n := c.toNat - 0x10000
    unitText (0xD800 + n / 0x400) ++ unitText (0xDC00 + n % 0x400)

/-- A string in quotes. -/
def stringText (s : String) : List Char :=
  '"' :: s.toList.flatMap charText ++ ['"']

/-- A double; infinities and NaN are words. -/
def floatText : Binary64 → List Char
  | .nan => "NaN".toList
  | .infinite negative => (if negative then "-Infinity" else "Infinity").toList
  | x => x.text.toList

/-- Texts with commas between them. -/
def commas : List (List Char) → List Char :=
  [','].intercalate

mutual

/-- A value in compact form; kinds that JSON lacks are written as null. -/
def compactChars : Value → List Char
  | .bool b => (if b then "true" else "false").toList
  | .int n => (toString n).toList
  | .float x => floatText x
  | .text s | .damaged s => stringText s
  | .list items | .tuple items => '[' :: commas (itemsText items) ++ [']']
  | .object members => '\x7b' :: commas (membersText members) ++ ['\x7d']
  | .null | .decimal _ | .uuid _ | .moment _ | .date _ => "null".toList

/-- The items of a list in compact form. -/
def itemsText : List Value → List (List Char)
  | [] => []
  | item :: rest => compactChars item :: itemsText rest

/-- The members of an object in compact form. -/
def membersText : List (String × Value) → List (List Char)
  | [] => []
  | (key, value) :: rest => (stringText key ++ ':' :: compactChars value) :: membersText rest

end

/-- A value in compact form. -/
def compact (v : Value) : String :=
  String.ofList (compactChars v)

/-- Why a value cannot be written. -/
inductive WriteFault where
  /-- JSON has no value of this kind. -/
  | kind
  /-- The double is no number, or the whole number has too many digits. -/
  | number
  /-- A text is damaged, and half of a character has no form in UTF-8. -/
  | encoding
  deriving DecidableEq, Repr

mutual

/-- The values within a value that hold no others, in the order in which they are written. -/
def leaves : Value → List Value
  | .list items | .tuple items => leavesOfItems items
  | .object members => leavesOfMembers members
  | leaf => [leaf]

/-- The leaves of items. -/
def leavesOfItems : List Value → List Value
  | [] => []
  | item :: rest => leaves item ++ leavesOfItems rest

/-- The leaves of members. -/
def leavesOfMembers : List (String × Value) → List Value
  | [] => []
  | (_, value) :: rest => leaves value ++ leavesOfMembers rest

end

/-- Why a leaf has no form in JSON. -/
def formFault? : Value → Option WriteFault
  | .int n => if n.natAbs < Nat.pow 10 Numeral.maxDigits then none else some .number
  | .float x => if x.isFinite then none else some .number
  | .decimal _ | .uuid _ | .moment _ | .date _ => some .kind
  | _ => none

/-- The text is damaged. -/
def isDamaged : Value → Bool
  | .damaged _ => true
  | _ => false

/-- Why a value cannot be sent. It is written as a whole before it is encoded. -/
def writeFault? (v : Value) : Option WriteFault :=
  ((leaves v).findSome? formFault?).or
    (if (leaves v).any isDamaged then some .encoding else none)

end QueryDesk.Json

import QueryDesk.Text.Hex
import QueryDesk.Text.Segments
import QueryDesk.Text.Utf8
import QueryDesk.Value.Basic

/-!
# Query strings

A query string has pairs between ampersands. A plus sign is a space, and a percent sign with two
hexadecimal digits is a byte of UTF-8; damaged bytes are replaced, other percent signs stay.
-/

namespace QueryDesk.Http.Query

/-- The bytes of a text with its percent escapes resolved. `skip` characters of an escape are still
    to be passed over. -/
def bytesFrom : (skip : Nat) → List Char → List UInt8
  | _, [] => []
  | skip + 1, _ :: rest => bytesFrom skip rest
  | 0, c :: rest =>
    if c = '%' then
      match rest with
      | a :: b :: _ =>
        match Text.hexValue? a, Text.hexValue? b with
        | some x, some y => UInt8.ofNat (x * 16 + y) :: bytesFrom 2 rest
        | _, _ => String.utf8EncodeChar c ++ bytesFrom 0 rest
      | _ => String.utf8EncodeChar c ++ bytesFrom 0 rest
    else String.utf8EncodeChar c ++ bytesFrom 0 rest

/-- A text with its percent escapes resolved. -/
def unescape (cs : List Char) : List Char :=
  Text.Utf8.decodeLossy (bytesFrom 0 cs)

/-- A character that stands for itself in an address. -/
def isSafe (c : Char) : Bool :=
  c.isAlphanum || "_.-~:/%#?=@[]!$&\x27()*+,;".toList.contains c

/-- An address, other characters being replaced by the percent escapes of their bytes. -/
def escape (cs : List Char) : List Char :=
  cs.flatMap fun c =>
    if isSafe c then [c]
    else (String.utf8EncodeChar c).flatMap fun byte =>
      '%' :: (Text.hexDigits 2 byte.toNat).map Char.toUpper

/-- A key or a value of a query string. -/
def decode (cs : List Char) : String :=
  String.ofList (unescape (cs.map fun c => if c = '+' then ' ' else c))

/-- A pair of a query string; without an equals sign its value is empty. -/
def pair (cs : List Char) : String × Value :=
  let (key, value) := (Text.cut? ['='] cs).getD (cs, [])
  (decode key, .text (decode value))

/-- The pairs of a query string; empty stretches hold none. -/
def pairs (query : String) : List (String × Value) :=
  ((Text.splitAt '&' query.toList).filter (!·.isEmpty)).map pair

/-- The parameters of a query string: a repeated key has its last value at its first place. -/
def params (query : String) : Members :=
  Members.ofPairs (pairs query)

end QueryDesk.Http.Query

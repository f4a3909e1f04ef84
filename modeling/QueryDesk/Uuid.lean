import QueryDesk.Number.Numeral
import QueryDesk.Text.Hex

/-!
# UUIDs

A UUID is a 128-bit number. Its text has 32 hexadecimal digits in groups of 8, 4, 4, 4 and 12; the
reader also accepts braces, the URN words, and hyphens anywhere or nowhere.
-/

namespace QueryDesk

/-- A 128-bit identifier. -/
structure Uuid where
  value : Nat
  deriving DecidableEq, Repr, Inhabited

namespace Uuid

open Text

/-- The 32 hexadecimal digits. -/
def hex (u : Uuid) : List Char :=
  hexDigits 32 u.value

/-- The digits in their five groups. -/
def text (u : Uuid) : String :=
  let h := u.hex
  String.ofList <|
    h.take 8 ++ '-' :: (h.drop 8).take 4 ++ '-' :: (h.drop 12).take 4 ++
      '-' :: (h.drop 16).take 4 ++ '-' :: h.drop 20

/-- Removes the occurrences of a word from left to right; `skip` characters of one are still to be
    passed over. -/
def removeWord (word : List Char) : (skip : Nat) → List Char → List Char
  | _, [] => []
  | skip + 1, _ :: rest => removeWord word skip rest
  | 0, c :: rest =>
    if word.isPrefixOf (c :: rest) then removeWord word (word.length - 1) rest
    else c :: removeWord word 0 rest

/-- Curly braces, which may enclose a UUID. -/
def isBrace (c : Char) : Bool :=
  c == '{' || c == '}'

/-- A text without what may decorate the digits of a UUID. -/
def bare (cs : List Char) : List Char :=
  let cs := removeWord "uuid:".toList 0 (removeWord "urn:".toList 0 cs)
  (dropWhileEnd isBrace (cs.dropWhile isBrace)).filter (· ≠ '-')

/-- The value of hexadecimal digits between which single underscores may stand. -/
def hexNumber? : (value : Nat) → (afterDigit : Bool) → List Char → Option Nat
  | value, afterDigit, [] => if afterDigit then some value else none
  | value, afterDigit, c :: rest =>
    if c = '_' then if afterDigit then hexNumber? value false rest else none
    else (hexValue? c).bind fun d => hexNumber? (value * 16 + d) true rest

/-- A hexadecimal number after an optional marker, which an underscore may follow. -/
def markedHexNumber? (cs : List Char) : Option Nat :=
  match cs with
  | '0' :: x :: rest =>
    if x = 'x' || x = 'X' then
      hexNumber? 0 false (if rest.head? = some '_' then rest.drop 1 else rest)
    else hexNumber? 0 false cs
  | _ => hexNumber? 0 false cs

/-- Reads a UUID: 32 characters remain without decoration and are a hexadecimal number. -/
def parse? (s : String) : Option Uuid :=
  let digits := bare s.toList
  if digits.length = 32 then
    let (negative, rest) := Numeral.takeSign (Numeral.plain digits)
    (markedHexNumber? rest).bind fun n => if negative && n != 0 then none else some ⟨n⟩
  else none

end Uuid

end QueryDesk

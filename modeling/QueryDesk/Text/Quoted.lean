import QueryDesk.Text.Hex
import QueryDesk.Text.Printable

/-!
# Quoted text

The form in which log lines and nested values show a text: between single quotes, or between double
quotes when it holds a single quote and no double one; the quote in use, the backslash and every
character that is not shown as it is are escaped.
-/

namespace QueryDesk.Text.Quoted

/-- The escape of a character that is not shown: two, four or eight hexadecimal digits. -/
def escaped (c : Char) : List Char :=
  let n := c.toNat
  if n < 0x100 then '\\' :: 'x' :: hexDigits 2 n
  else if n < 0x10000 then '\\' :: 'u' :: hexDigits 4 n
  else '\\' :: 'U' :: hexDigits 8 n

/-- One character between the quotes. -/
def encodeChar (shown : Char → Bool) (mark c : Char) : List Char :=
  if c = mark || c = '\\' then ['\\', c]
  else if c = '\n' then ['\\', 'n']
  else if c = '\r' then ['\\', 'r']
  else if c = '\t' then ['\\', 't']
  else if shown c then [c]
  else escaped c

/-- The quotation mark chosen for a text. -/
def markFor (cs : List Char) : Char :=
  if cs.contains '\'' && !cs.contains '"' then '"' else '\''

/-- A text in quotes, where `shown` says which characters stand for themselves. -/
def encodeWith (shown : Char → Bool) (cs : List Char) : List Char :=
  let mark := markFor cs
  mark :: cs.flatMap (encodeChar shown mark) ++ [mark]

/-- A text in quotes with its printable characters kept. -/
def encode (s : String) : String :=
  String.ofList (encodeWith isPrintable s.toList)

end QueryDesk.Text.Quoted

import QueryDesk.Number.Numeral
import QueryDesk.Value.Text

/-!
# Operands

The text of a filter value that is in plain decimal notation stands for a number, and any other text
for itself. Plain decimal notation has ASCII digits with an optional sign, fraction and exponent.
-/

namespace QueryDesk.Operand

open Numeral

/-- A text in plain decimal notation, read. -/
structure Plain where
  negative : Bool
  number : Scientific
  /-- The digits, if the text has neither point nor exponent. -/
  whole? : Option (List Char)
  deriving DecidableEq, Repr

/-- Reads plain decimal notation. -/
def plain? (cs : List Char) : Option Plain :=
  let (negative, rest) := takeSign cs
  (scientific? rest).map fun number => ⟨negative, number, digits? rest⟩

/-- The number of a text in plain decimal notation: a whole number if it is written as one in few
    enough digits, otherwise the nearest double, unless that is infinite. -/
def number? (p : Plain) : Option Value :=
  let x := Binary64.ofScientific p.negative p.number.coefficient p.number.exponent
  if !x.isFinite then none
  else match p.whole? with
    | some digits =>
      if digits.length ≤ maxDigits then some (.int (signed p.negative p.number.coefficient))
      else some (.float x)
    | none => some (.float x)

/-- What a text stands for as an operand; blanks around a number do not matter. -/
def ofText (s : String) : Value :=
  ((plain? (Text.trim s.toList)).bind number?).getD (.text s)

/-- What a value stands for as an operand. -/
def ofValue : Value → Value
  | .text s => ofText s
  | v => v

end QueryDesk.Operand

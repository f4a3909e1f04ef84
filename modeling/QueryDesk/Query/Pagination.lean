import QueryDesk.Number.Numeral
import QueryDesk.Query.Fault
import QueryDesk.Value.Text

/-!
# Pagination

A page is a limit and an offset, taken from the parameters `limit`, `offset` and `page`. An offset
wins over a page number, and without a usable limit there is no offset either.
-/

namespace QueryDesk

/-- How many rows to pass over and how many to give. -/
structure Pagination where
  limit : Option Int := none
  offset : Int := 0
  deriving DecidableEq, Repr

namespace Pagination

open Numeral

/-- The limit when none is asked for. -/
def defaultLimit : Int := 25

/-- The page when none is asked for. -/
def defaultPage : Int := 1

/-- The whole number that a text begins with, after ASCII blanks and an optional sign; its run of
    digits is as long as possible and has at most `maxDigits` digits. -/
def leadingInt? (cs : List Char) : Option Int :=
  let (negative, rest) := takeSign (cs.dropWhile Text.isAsciiBlank)
  let digits := rest.takeWhile Text.isAsciiDigit
  if digits.isEmpty || maxDigits < digits.length then none
  else some (signed negative (natOfDigits digits))

/-- The text of a parameter. -/
def paramText (v : Value) : Except QueryFault String :=
  match v.text? with
  | some s => .ok s
  | none => .error .tooManyDigits

/-- The whole number that a parameter begins with; null has none. -/
def paramInt : Value → Except QueryFault (Option Int)
  | .null => .ok none
  | v => return leadingInt? (← paramText v).toList

/-- The number of a parameter, or the default if it is null. -/
def paramIntOr (default : Int) : Value → Except QueryFault (Option Int)
  | .null => .ok (some default)
  | v => paramInt v

/-- A parameter that is there: neither null nor without text. -/
def isGiven : Value → Except QueryFault Bool
  | .null => .ok false
  | v => return (← paramText v) != ""

/-- The limit asked for; the text `-1` asks for none. -/
def limitOf : Value → Except QueryFault (Option Int)
  | .text "-1" => .ok none
  | v => paramIntOr defaultLimit v

/-- The page of rows that three parameters ask for, null standing for an absent one. -/
def resolve (page limit offset : Value) : Except QueryFault Pagination := do
  match ← limitOf limit with
  | none => return {}
  | some limit =>
    if ← isGiven offset then
      return ⟨some limit, (← paramInt offset).getD 0⟩
    else
      match ← paramIntOr defaultPage page with
      | none => return ⟨some limit, 0⟩
      | some page => return ⟨some limit, (page - 1) * limit⟩

end Pagination

end QueryDesk

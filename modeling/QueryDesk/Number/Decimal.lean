import QueryDesk.Number.Notation

/-!
# Decimal numbers

A decimal number keeps the coefficient and the exponent it was written with, so `1.50` and `1.5` are
different values with different texts.
-/

namespace QueryDesk

/-- A decimal number of any size, an infinity, or a quiet or signaling NaN with its payload. -/
inductive Decimal where
  /-- `coefficient * 10 ^ exponent`, negated if so marked. -/
  | finite (negative : Bool) (coefficient : Nat) (exponent : Int)
  | infinite (negative : Bool)
  | nan (negative signaling : Bool) (payload : Nat)
  deriving DecidableEq, Repr, Inhabited

namespace Decimal

/-- The largest exponent that the first digit of a decimal number may have. -/
def maxAdjusted : Int := 999999999999999999

/-- The smallest exponent that the last digit of a decimal number may have. -/
def minExponent : Int := -1999999999999999997

/-- Neither infinite nor a NaN. -/
def isFinite : Decimal → Bool
  | finite _ _ _ => true
  | _ => false

/-- Equal to zero. -/
def isZero : Decimal → Bool
  | finite _ coefficient _ => coefficient == 0
  | _ => false

/-- The decimal number of a coefficient and an exponent, if both are within the bounds. -/
def make? (negative : Bool) (coefficient : Nat) (exponent : Int) : Option Decimal :=
  let adjusted :=
    if coefficient = 0 then exponent
    else exponent + Binary64.decimalLength coefficient - 1
  if minExponent ≤ exponent ∧ adjusted ≤ maxAdjusted then
    some (.finite negative coefficient exponent)
  else none

/-- The text of a finite magnitude: positional when the exponent is not positive and at most six
    zeros follow the point, otherwise with one digit before the point and an exponent. -/
def magnitudeText (coefficient : Nat) (exponent : Int) : List Char :=
  let digits := Nat.toDigits 10 coefficient
  let places := exponent + digits.length
  if exponent = 0 then digits
  else if exponent < 0 ∧ -6 < places then
    if places ≤ 0 then '0' :: '.' :: (List.replicate (-places).toNat '0' ++ digits)
    else digits.take places.toNat ++ '.' :: digits.drop places.toNat
  else
    let mantissa := match digits with
      | d :: e :: rest => d :: '.' :: e :: rest
      | short => short
    let e := places - 1
    if e = 0 then mantissa
    else mantissa ++ 'E' :: (if e < 0 then '-' else '+') :: Nat.toDigits 10 e.natAbs

/-- The text of a decimal number. -/
def text : Decimal → String
  | finite negative coefficient exponent =>
    String.ofList ((if negative then ['-'] else []) ++ magnitudeText coefficient exponent)
  | infinite negative => if negative then "-Infinity" else "Infinity"
  | nan negative signaling payload =>
    (if negative then "-" else "") ++ (if signaling then "sNaN" else "NaN") ++
      (if payload = 0 then "" else toString payload)

/-- The nearest double; a signaling NaN has none. -/
def toBinary64? : Decimal → Option Binary64
  | finite negative coefficient exponent =>
    some (Binary64.ofScientific negative coefficient exponent)
  | infinite negative => some (.infinite negative)
  | nan _ signaling _ => if signaling then none else some .nan

end Decimal

end QueryDesk

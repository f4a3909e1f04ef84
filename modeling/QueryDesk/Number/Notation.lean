import QueryDesk.Number.Binary64

/-!
# Decimal notations of doubles

`text` writes the fewest digits that read back as the same double, `fixed` a given number of
decimal places, and `significant` at most fifteen significant digits.
-/

namespace QueryDesk.Binary64

/-- The quotient and its denominator that `units` are on the grid of multiples of
    `10 ^ exponent`. -/
def onGrid (units : Nat) (exponent : Int) : Nat × Nat :=
  if 0 ≤ exponent then (units, one * Nat.pow 10 exponent.toNat)
  else (units * Nat.pow 10 (-exponent).toNat, one)

/-- The exponent `e` with `10 ^ (e - 1) ≤ units * 2 ^ -1074 < 10 ^ e`, for a positive count. -/
def magnitude (units : Nat) : Int :=
  (decimalLength (units * Nat.pow 10 400 / one) : Int) - 400

/-- The one of the two multiples of `10 ^ exponent` around a positive double that reads back as that
    double, and the nearer of the two if both do. -/
def readsBack? (units : Nat) (exponent : Int) : Option Nat :=
  let (num, den) := onGrid units exponent
  let below := num / den
  let good (n : Nat) : Bool := ofScientific false n exponent == .finite false units
  match good below, good (below + 1) with
  | true, true => some (roundDiv num den)
  | true, false => some below
  | false, true => some (below + 1)
  | false, false => none

/-- The decimal number with the fewest digits that reads back as a positive double, as a coefficient
    and an exponent of ten. Seventeen digits always do. -/
def shortest (units : Nat) : Nat × Int :=
  let e := magnitude units
  let tries := (List.range 17).map fun digits => e - (digits + 1 : Nat)
  (tries.findSome? fun exponent => (readsBack? units exponent).map (·, exponent)).getD (units, 0)

/-- A coefficient without its trailing zeros, and the exponent that makes up for them. -/
def normalized (coefficient : List Char) (exponent : Int) : List Char × Int :=
  let zeros := coefficient.reverse.takeWhile (· == '0')
  (coefficient.take (coefficient.length - zeros.length), exponent + zeros.length)

/-- Digits with the decimal point after the first `places` of them, zeros filled in on either side
    and at least one digit on both. -/
def positional (digits : List Char) (places : Int) : List Char :=
  if places ≤ 0 then
    '0' :: '.' :: (List.replicate (-places).toNat '0' ++ digits)
  else
    let whole := places.toNat
    if digits.length ≤ whole then
      digits ++ List.replicate (whole - digits.length) '0' ++ ['.', '0']
    else digits.take whole ++ '.' :: digits.drop whole

/-- A signed exponent of at least two digits. -/
def exponentText (e : Int) : List Char :=
  let digits := Nat.toDigits 10 e.natAbs
  (if e < 0 then '-' else '+') :: (if digits.length < 2 then '0' :: digits else digits)

/-- Digits with a point after the first of them, if there are more, and an exponent. -/
def exponential (digits : List Char) (exponent : Int) : List Char :=
  (match digits with
    | [] => []
    | [d] => [d]
    | d :: rest => d :: '.' :: rest) ++ 'e' :: exponentText exponent

/-- The shortest text of a positive double: positional from `10 ^ -4` up to `10 ^ 16`. -/
def positiveText (units : Nat) : List Char :=
  let (coefficient, exponent) := shortest units
  let (digits, exponent) := normalized (Nat.toDigits 10 coefficient) exponent
  let places := exponent + digits.length
  if -4 < places ∧ places ≤ 16 then positional digits places
  else exponential digits (places - 1)

/-- The shortest text that reads back as the same double. -/
def text : Binary64 → String
  | nan => "nan"
  | infinite negative => if negative then "-inf" else "inf"
  | finite negative units =>
    let magnitude := if units = 0 then ['0', '.', '0'] else positiveText units
    String.ofList (if negative then '-' :: magnitude else magnitude)

/-- A whole number of `10 ^ -places` in positional notation. -/
def withPlaces (places : Nat) (n : Nat) : List Char :=
  let digits := Nat.toDigits 10 n
  let digits := List.replicate (places + 1 - digits.length) '0' ++ digits
  let whole := digits.length - places
  if places = 0 then digits else digits.take whole ++ '.' :: digits.drop whole

/-- A double with a fixed number of decimal places, a half going to the even neighbour. -/
def fixed (places : Nat) : Binary64 → String
  | nan => "nan"
  | infinite negative => if negative then "-inf" else "inf"
  | finite negative units =>
    let digits := withPlaces places (roundDiv (units * Nat.pow 10 places) one)
    String.ofList (if negative then '-' :: digits else digits)

/-- A double rounded to a fixed number of decimal places. -/
def roundPlaces (places : Nat) : Binary64 → Binary64
  | finite negative units =>
    ofRatio negative (roundDiv (units * Nat.pow 10 places) one) (Nat.pow 10 places)
  | x => x

/-- The quotient rounded to the nearest whole number, a half going up. -/
def roundHalfUp (num den : Nat) : Nat :=
  (2 * num + den) / (2 * den)

/-- The significant digits and the exponent of a positive double with at most fifteen digits. -/
def fifteenDigits (units : Nat) : List Char × Int :=
  let exponent := magnitude units - 15
  let (num, den) := onGrid units exponent
  normalized (Nat.toDigits 10 (roundHalfUp num den)) exponent

/-- A double with at most fifteen significant digits and at least one decimal place: the text of a
    stored real number. It is positional from `10 ^ -4` up to `10 ^ 15`. -/
def significant : Binary64 → String
  | nan => ""
  | infinite negative => if negative then "-Inf" else "Inf"
  | finite negative units =>
    let body :=
      if units = 0 then ['0', '.', '0']
      else
        let (digits, exponent) := fifteenDigits units
        let places := exponent + digits.length
        if -4 < places ∧ places ≤ 15 then positional digits places
        else if digits.length = 1 then exponential (digits ++ ['0']) (places - 1)
        else exponential digits (places - 1)
    String.ofList (if negative && units != 0 then '-' :: body else body)

end QueryDesk.Binary64

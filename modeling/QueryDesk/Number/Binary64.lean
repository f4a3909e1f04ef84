/-!
# Double-precision numbers

A finite double is a whole number of units of `2 ^ -1074`, so comparing, adding and truncating are
exact integer work followed by one rounding: to the nearest double, a half to the even neighbour.
-/

namespace QueryDesk

/-- A double-precision number; the zeros keep their sign. -/
inductive Binary64 where
  /-- `units * 2 ^ -1074`, negated if so marked. -/
  | finite (negative : Bool) (units : Nat)
  | infinite (negative : Bool)
  | nan
  deriving DecidableEq, Repr, Inhabited

namespace Binary64

/-- One is this many units. -/
def one : Nat := Nat.pow 2 1074

/-- A magnitude that rounds to this many units is past the largest finite double. -/
def overflow : Nat := Nat.pow 2 2098

/-- The whole number nearest to a quotient, a half going to the even one. -/
def roundDiv (num den : Nat) : Nat :=
  let q := num / den
  let r := num % den
  if 2 * r < den then q else if den < 2 * r then q + 1 else q + q % 2

/-- The nearest count of units with at most 53 significant bits. -/
def roundUnits (num den : Nat) : Nat :=
  let spare := Nat.pow 2 ((num / den).log2 + 1 - 53)
  roundDiv num (den * spare) * spare

/-- A count of units as a number, infinite from the overflow bound on. -/
def ofUnits (negative : Bool) (units : Nat) : Binary64 :=
  if units < overflow then .finite negative units else .infinite negative

/-- The double nearest to a quotient of natural numbers. -/
def ofRatio (negative : Bool) (num den : Nat) : Binary64 :=
  ofUnits negative (roundUnits (num * one) den)

/-- The double nearest to a whole number. -/
def ofInt (n : Int) : Binary64 :=
  ofRatio (n < 0) n.natAbs 1

/-- The number of decimal digits of a natural number; zero has one. -/
def decimalLength (n : Nat) : Nat :=
  (Nat.toDigits 10 n).length

/-- The double nearest to `coefficient * 10 ^ exponent`. Magnitudes beyond `10 ^ 400` are past
    every double and those below `10 ^ -400` round to zero, so their powers are never formed. -/
def ofScientific (negative : Bool) (coefficient : Nat) (exponent : Int) : Binary64 :=
  if coefficient = 0 then .finite negative 0
  else
    let size := exponent + decimalLength coefficient
    if 400 < size then .infinite negative
    else if size < -400 then .finite negative 0
    else if 0 ≤ exponent then ofRatio negative (coefficient * Nat.pow 10 exponent.toNat) 1
    else ofRatio negative coefficient (Nat.pow 10 (-exponent).toNat)

/-- The signed number of units of a finite double. -/
def scaled? : Binary64 → Option Int
  | finite negative units => some (if negative then -(units : Int) else units)
  | _ => none

/-- Neither infinite nor a NaN. -/
def isFinite : Binary64 → Bool
  | finite _ _ => true
  | _ => false

/-- Equal to zero of either sign. -/
def isZero : Binary64 → Bool
  | finite _ units => units == 0
  | _ => false

/-- A finite double without fractional part. -/
def isWhole : Binary64 → Bool
  | finite _ units => units % one == 0
  | _ => false

/-- A finite double with its fraction cut off. -/
def truncate? : Binary64 → Option Int
  | finite negative units =>
    let n : Int := (units / one : Nat)
    some (if negative then -n else n)
  | _ => none

/-- The order of two doubles; a NaN stands in none with any. -/
def compare? : Binary64 → Binary64 → Option Ordering
  | nan, _ | _, nan => none
  | infinite a, infinite b => some (if a == b then .eq else if a then .lt else .gt)
  | infinite a, finite _ _ => some (if a then .lt else .gt)
  | finite _ _, infinite b => some (if b then .gt else .lt)
  | finite a m, finite b n =>
    let x : Int := if a then -(m : Int) else m
    let y : Int := if b then -(n : Int) else n
    some (compare x y)

/-- The first is strictly less than the second. -/
def lt (x y : Binary64) : Bool :=
  compare? x y == some .lt

/-- The larger of two numbers; the first when neither is larger. -/
def max (x y : Binary64) : Binary64 :=
  if lt x y then y else x

/-- The double nearest to a signed number of units, where a sum of zero is positive. -/
def ofScaled (n : Int) : Binary64 :=
  ofUnits (n < 0) (roundUnits n.natAbs 1)

/-- The double nearest to the sum. -/
def add : Binary64 → Binary64 → Binary64
  | nan, _ | _, nan => nan
  | infinite a, infinite b => if a == b then infinite a else nan
  | infinite a, finite _ _ => infinite a
  | finite _ _, infinite b => infinite b
  | finite a m, finite b n =>
    if m = 0 ∧ n = 0 then finite (a && b) 0
    else ofScaled ((if a then -(m : Int) else m) + (if b then -(n : Int) else n))

end Binary64

end QueryDesk

import QueryDesk.Value.Text

/-!
# Values as numbers and texts

How a value is read where a number is asked for, and the text of a value that may be missing.
-/

namespace QueryDesk

/-- Why a value is no number. -/
inductive ConvertFault where
  /-- Values of this kind are never numbers. -/
  | kind
  /-- The text or the NaN stands for no number. -/
  | content
  /-- The number is beyond the range. -/
  | range
  deriving DecidableEq, Repr

namespace Value

/-- A decimal number with its fraction cut off. -/
def decimalToInt : Decimal → Except ConvertFault Int
  | .finite negative coefficient exponent =>
    let n :=
      if 0 ≤ exponent then coefficient * Nat.pow 10 exponent.toNat
      else if (Binary64.decimalLength coefficient : Int) + exponent ≤ 0 then 0
      else coefficient / Nat.pow 10 (-exponent).toNat
    .ok (Numeral.signed negative n)
  | .infinite _ => .error .range
  | .nan _ _ _ => .error .content

/-- A value as a whole number; fractions are cut off. -/
def toInt : Value → Except ConvertFault Int
  | int n => .ok n
  | bool b => .ok (if b then 1 else 0)
  | float x => match x with
    | .nan => .error .content
    | .infinite _ => .error .range
    | finite => .ok (finite.truncate?.getD 0)
  | decimal d => decimalToInt d
  | text s | damaged s => match Numeral.readInt? s.toList with
    | some n => .ok n
    | none => .error .content
  | uuid u => .ok u.value
  | null | moment _ | date _ | list _ | tuple _ | object _ => .error .kind

/-- A value as a double. -/
def toBinary64 : Value → Except ConvertFault Binary64
  | int n => match Binary64.ofInt n with
    | .infinite _ => .error .range
    | x => .ok x
  | bool b => .ok (Binary64.ofInt (if b then 1 else 0))
  | float x => .ok x
  | decimal d => match d.toBinary64? with
    | some x => .ok x
    | none => .error .content
  | text s | damaged s => match Numeral.readBinary64? s.toList with
    | some x => .ok x
    | none => .error .content
  | null | uuid _ | moment _ | date _ | list _ | tuple _ | object _ => .error .kind

/-- The text of a value, where a value that counts as absent has the text `default`. -/
def textOr? (default : String) (v : Value) : Option String :=
  if v.isTruthy then v.text? else some default

end Value

end QueryDesk

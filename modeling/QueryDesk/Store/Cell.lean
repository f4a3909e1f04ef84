import QueryDesk.Catalog
import QueryDesk.Number.Notation
import QueryDesk.Value.Basic

/-!
# Cells

What is stored in one column of one row, and how cells compare: numbers by value, texts by code
points, and every number before every text. Nothing compares with null.
-/

namespace QueryDesk

/-- A stored cell. -/
inductive Cell where
  | null
  | int (n : Int)
  | real (x : Binary64)
  | text (cs : List Char)
  deriving DecidableEq, Repr, Inhabited

/-- A truth value, where `none` is neither true nor false. -/
abbrev Truth := Option Bool

namespace Truth

/-- False if either is, true if both are. -/
def and : Truth → Truth → Truth
  | some false, _ | _, some false => some false
  | some true, some true => some true
  | _, _ => none

/-- True if either is, false if both are. -/
def or : Truth → Truth → Truth
  | some true, _ | _, some true => some true
  | some false, some false => some false
  | _, _ => none

end Truth

namespace Cell

/-- The least and the greatest whole number that a cell can hold are one apart from these. -/
def intBound : Int := 0x8000000000000000

/-- The whole number fits a cell. -/
def fits (n : Int) : Bool :=
  -intBound ≤ n && n < intBound

/-- The cell of a number: a NaN is null. -/
def ofBinary64 : Binary64 → Cell
  | .nan => .null
  | x => .real x

/-- The cell of a number in a column of numbers, where a number without fraction is kept as a whole
    number if it fits. -/
def ofStored (x : Binary64) : Cell :=
  match x.truncate? with
  | some n => if x.isWhole && fits n && n != -intBound then .int n else .real x
  | none => ofBinary64 x

/-- A number as it is read from a column of numbers: zero has lost its sign. -/
def unsignedZero (x : Binary64) : Binary64 :=
  if x.isZero then .finite false 0 else x

/-- The text of a cell that is not null. -/
def text? : Cell → Option (List Char)
  | null => none
  | int n => some (toString n).toList
  | real x => some x.significant.toList
  | text cs => some cs

/-- The order of two texts by code points. -/
def compareText : List Char → List Char → Ordering
  | [], [] => .eq
  | [], _ :: _ => .lt
  | _ :: _, [] => .gt
  | a :: as, b :: bs => (compare a.toNat b.toNat).then (compareText as bs)

/-- The order of a whole number and a double that is no NaN. -/
def compareIntReal (n : Int) : Binary64 → Ordering
  | .infinite negative => if negative then .gt else .lt
  | x => compare (n * Binary64.one) (x.scaled?.getD 0)

/-- The order of two cells; null stands first. -/
def order : Cell → Cell → Ordering
  | null, null => .eq
  | null, _ => .lt
  | _, null => .gt
  | int a, int b => compare a b
  | int a, real b => compareIntReal a b
  | real a, int b => (compareIntReal b a).swap
  | real a, real b => (Binary64.compare? a b).getD .eq
  | text _, int _ | text _, real _ => .gt
  | int _, text _ | real _, text _ => .lt
  | text a, text b => compareText a b

/-- The order of two cells of which neither is null. -/
def compare? : Cell → Cell → Option Ordering
  | null, _ | _, null => none
  | a, b => some (a.order b)

end Cell

/-- How a column converts what it is compared with. -/
inductive Affinity where
  /-- Numbers become their texts. -/
  | textual
  /-- Texts that are written like numbers become numbers. -/
  | numeric
  deriving DecidableEq, Repr

/-- The affinity of the columns of a kind. -/
def ColumnKind.affinity : ColumnKind → Affinity
  | .uuid | .text => .textual
  | .whole | .decimal | .moment => .numeric

/-- Reads a text that is written like a number, ASCII blanks around it allowed. -/
def numericText? (cs : List Char) : Option Cell :=
  let cs := Text.dropWhileEnd Text.isAsciiBlank (cs.dropWhile Text.isAsciiBlank)
  let (negative, rest) := Numeral.takeSign cs
  (Numeral.scientific? rest).map fun n =>
    .real (Binary64.ofScientific negative n.coefficient n.exponent)

/-- A cell as a column of this affinity compares with it. -/
def Affinity.convert : Affinity → Cell → Cell
  | .textual, .int n => .text (toString n).toList
  | .textual, .real x => .text x.significant.toList
  | .numeric, .text cs => (numericText? cs).getD (.text cs)
  | _, cell => cell

end QueryDesk

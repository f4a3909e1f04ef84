import QueryDesk.Number.Decimal
import QueryDesk.Text.Blank
import QueryDesk.Text.Case
import QueryDesk.Text.Digit

/-!
# Reading numbers

Three readers of numerals: whole numbers, doubles and decimal numbers. All accept the digits of any
script and surrounding blanks; single underscores may separate digits, and a decimal number may hold
underscores anywhere.
-/

namespace QueryDesk.Numeral

open Text

/-- The most digits, leading zeros included, that the text of a whole number may have. -/
def maxDigits : Nat := 4300

/-- A blank that may surround a numeral: the information separators may not. -/
def isMargin (c : Char) : Bool :=
  isBlank c && !(28 ≤ c.toNat && c.toNat ≤ 31)

/-- A digit of any script as its ASCII digit. -/
def plainDigit (c : Char) : Char :=
  if c.toNat < 128 then c else ((digitValue? c).map asciiDigit).getD c

/-- A numeral without its margins and with ASCII digits. -/
def plain (cs : List Char) : List Char :=
  (dropWhileEnd isMargin (cs.dropWhile isMargin)).map plainDigit

/-- Removes the underscores that stand between two digits; any other underscore is refused.
    `afterDigit` says whether a digit stands before the text. -/
def withoutSeparators? : (afterDigit : Bool) → List Char → Option (List Char)
  | _, [] => some []
  | afterDigit, c :: rest =>
    if c = '_' then
      if afterDigit && (rest.head?.map isAsciiDigit).getD false then
        withoutSeparators? false rest
      else none
    else (withoutSeparators? (isAsciiDigit c) rest).map (c :: ·)

/-- The value of a run of ASCII digits. -/
def natOfDigits (digits : List Char) : Nat :=
  digits.foldl (fun n c => n * 10 + asciiDigitValue c) 0

/-- An optional sign: whether it is a minus, and what follows it. -/
def takeSign : List Char → Bool × List Char
  | '-' :: rest => (true, rest)
  | '+' :: rest => (false, rest)
  | cs => (false, cs)

/-- A magnitude with its sign. -/
def signed (negative : Bool) (n : Nat) : Int :=
  if negative then -(n : Int) else n

/-- A non-empty run of ASCII digits and nothing else. -/
def digits? (cs : List Char) : Option (List Char) :=
  if !cs.isEmpty && cs.all isAsciiDigit then some cs else none

/-- Reads a whole number: an optional sign and at most `maxDigits` digits. -/
def readInt? (cs : List Char) : Option Int := do
  let (negative, rest) := takeSign (← withoutSeparators? false (plain cs))
  let digits ← digits? rest
  if digits.length ≤ maxDigits then some (signed negative (natOfDigits digits)) else none

/-- Unsigned positional or exponential notation, read: `coefficient * 10 ^ exponent`. -/
structure Scientific where
  coefficient : Nat
  exponent : Int
  deriving DecidableEq, Repr

/-- An exponent part: a letter `e`, an optional sign and digits; nothing at all counts as zero. -/
def exponentPart? : List Char → Option Int
  | [] => some 0
  | c :: rest =>
    if c = 'e' || c = 'E' then
      let (negative, rest) := takeSign rest
      (digits? rest).map fun digits => signed negative (natOfDigits digits)
    else none

/-- A decimal point and the digits after it, if it is there, and what follows. -/
def takeFraction : List Char → Bool × List Char × List Char
  | '.' :: rest => let (digits, rest) := rest.span isAsciiDigit; (true, digits, rest)
  | cs => (false, [], cs)

/-- Reads unsigned notation: digits with an optional point and fraction, or a point and digits, and
    an optional exponent. -/
def scientific? (cs : List Char) : Option Scientific :=
  let (whole, rest) := cs.span isAsciiDigit
  let (_, fraction, rest) := takeFraction rest
  if whole.isEmpty && fraction.isEmpty then none
  else (exponentPart? rest).map fun e => ⟨natOfDigits (whole ++ fraction), e - fraction.length⟩

/-- A word in any ASCII case. -/
def isWord (word : String) (cs : List Char) : Bool :=
  asciiLower cs == word.toList

/-- Reads a double: unsigned notation or the words for infinity and not-a-number, after an optional
    sign. -/
def readBinary64? (cs : List Char) : Option Binary64 := do
  let (negative, rest) := takeSign (← withoutSeparators? false (plain cs))
  if isWord "inf" rest || isWord "infinity" rest then some (.infinite negative)
  else if isWord "nan" rest then some .nan
  else
    let n ← scientific? rest
    some (Binary64.ofScientific negative n.coefficient n.exponent)

/-- The payload after the word of a NaN. -/
def payload? (word : String) (cs : List Char) : Option Nat :=
  if isWord word (cs.take word.length) then
    let rest := cs.drop word.length
    if rest.all isAsciiDigit then some (natOfDigits rest) else none
  else none

/-- Reads a decimal number; underscores are passed over wherever they stand. -/
def readDecimal? (cs : List Char) : Option Decimal :=
  let (negative, rest) := takeSign ((plain cs).filter (· ≠ '_'))
  if isWord "inf" rest || isWord "infinity" rest then some (.infinite negative)
  else match payload? "nan" rest, payload? "snan" rest with
    | some payload, _ => some (.nan negative false payload)
    | _, some payload => some (.nan negative true payload)
    | _, _ => (scientific? rest).bind fun n => Decimal.make? negative n.coefficient n.exponent

end QueryDesk.Numeral

import QueryDesk.Value.Text

/-!
# Validation of input

Input that does not fit its declaration is refused with one issue per misfit. Where a number or a
truth value is declared, some other kinds are accepted for it: the readers here say which.
-/

namespace QueryDesk

/-- What is wrong with a piece of input. -/
inductive IssueKind where
  | missing
  | jsonInvalid
  | attributesType
  | modelType
  | dictType
  | listType
  | tupleType
  | stringType
  | stringUnicode
  | literalError
  | intType
  | intParsing
  | intParsingSize
  | intFromFloat
  | finiteNumber
  | floatParsing
  | boolType
  | boolParsing
  deriving DecidableEq, Repr

/-- The code of a misfit. -/
def IssueKind.code : IssueKind → String
  | .missing => "missing"
  | .jsonInvalid => "json_invalid"
  | .attributesType => "model_attributes_type"
  | .modelType => "model_type"
  | .dictType => "dict_type"
  | .listType => "list_type"
  | .tupleType => "tuple_type"
  | .stringType => "string_type"
  | .stringUnicode => "string_unicode"
  | .literalError => "literal_error"
  | .intType => "int_type"
  | .intParsing => "int_parsing"
  | .intParsingSize => "int_parsing_size"
  | .intFromFloat => "int_from_float"
  | .finiteNumber => "finite_number"
  | .floatParsing => "float_parsing"
  | .boolType => "bool_type"
  | .boolParsing => "bool_parsing"

/-- A misfit, the path to the piece of input that has it, and that piece; of a missing piece, what
    lacks it. -/
structure Issue where
  kind : IssueKind
  location : List String
  input : Value
  deriving Repr

/-- A reader's answer: the value read, or the misfits found, the value's own place first. -/
abbrev Validated (α : Type) := Except (List Issue) α

namespace Validation

open Text

/-- A misfit of the value at a place. -/
def refuse {α : Type} (kind : IssueKind) (location : List String) (input : Value) : Validated α :=
  .error [⟨kind, location, input⟩]

/-- Two independent answers: both values, or the misfits of both. -/
def both {α β : Type} : Validated α → Validated β → Validated (α × β)
  | .ok a, .ok b => .ok (a, b)
  | .ok _, .error e => .error e
  | .error e, .ok _ => .error e
  | .error e, .error f => .error (e ++ f)

/-- Independent answers for a list: all values, or the misfits of all. -/
def every {α : Type} : List (Validated α) → Validated (List α)
  | [] => .ok []
  | first :: rest => (both first (every rest)).map fun (a, others) => a :: others

/-- A field that may be absent. -/
def withDefault {α : Type} (default : α) (read : Value → Validated α) : Option Value → Validated α
  | none => .ok default
  | some v => read v

/-- A text, and nothing else. -/
def string (location : List String) : Value → Validated String
  | .text s => .ok s
  | .damaged s => refuse .stringUnicode location (.damaged s)
  | v => refuse .stringType location v

/-- The items of a sequence with their positions. -/
def sequence {α : Type} (location : List String) (read : List String → Value → Validated α)
    (items : List Value) : Validated (List α) :=
  every <| items.zipIdx.map fun (item, i) => read (location ++ [toString i]) item

/-- An underscore stands at neither end and next to no other. -/
def separatorsFit : (afterSeparator : Bool) → List Char → Bool
  | afterSeparator, [] => !afterSeparator
  | afterSeparator, c :: rest => !(afterSeparator && c == '_') && separatorsFit (c == '_') rest

/-- A text without its underscores, if they stand singly and inside it; other texts are left as they
    are. -/
def dropSeparators (cs : List Char) : List Char :=
  if separatorsFit true cs then cs.filter (· ≠ '_') else cs

/-- A text without the margins that surround numerals. -/
def trimMargin (cs : List Char) : List Char :=
  dropWhileEnd Numeral.isMargin (cs.dropWhile Numeral.isMargin)

/-- What follows zeros with single underscores among them, up to a digit or a minus sign. A zero
    that a point or nothing follows is kept. `last` is the character before the text. -/
def afterZeros? (last : Char) : List Char → Option (List Char)
  | [] => some [last]
  | c :: rest =>
    if c = '0' || (c = '_' && last ≠ '_') then afterZeros? c rest
    else if c = '.' then some (last :: c :: rest)
    else if isAsciiDigit c || c = '-' then some (c :: rest)
    else none

/-- A numeral without zeros at its front; none if it does not begin with a digit. -/
def dropZeros? : List Char → Option (List Char)
  | [] => none
  | c :: rest =>
    if c = '0' then afterZeros? c rest
    else if isAsciiDigit c then some (c :: rest)
    else none

/-- A numeral without its fraction, if that is all zeros and has at least one. -/
def dropFraction (cs : List Char) : List Char :=
  let (whole, rest) := cs.span (· ≠ '.')
  if 2 ≤ rest.length && rest.tail.all (· == '0') then whole else cs

/-- Reads a whole number in its one plain form: a minus sign if it has one, and digits that do not
    begin with a zero unless that is all. The size is judged as soon as the digits end. -/
def plainInt (cs : List Char) : Except IssueKind Int :=
  let (negative, rest) := match cs with
    | '-' :: rest => (true, rest)
    | _ => (false, cs)
  let digits := rest.takeWhile isAsciiDigit
  if digits.head? = some '0' then if rest = ['0'] then .ok 0 else .error .intParsing
  else if Numeral.maxDigits < digits.length then .error .intParsingSize
  else if digits.isEmpty || digits.length < rest.length then .error .intParsing
  else .ok (Numeral.signed negative (Numeral.natOfDigits digits))

/-- Reads a whole number written in ASCII digits. Margins, a sign, zeros at its front, a fraction of
    zeros and single underscores do not matter; once zeros at the front are dropped, a minus sign
    may follow them. -/
def readInt (s : String) : Except IssueKind Int :=
  let (negative, rest) := Numeral.takeSign (trimMargin s.toList)
  match dropZeros? rest with
  | none => .error .intParsing
  | some cs =>
    let cs := dropSeparators (dropFraction cs)
    plainInt (if negative then '-' :: cs else cs)

/-- A double without fraction within 63 bits. -/
def wholeFloat (x : Binary64) : Except IssueKind Int :=
  match x.truncate? with
  | none => .error .finiteNumber
  | some n =>
    if !x.isWhole then .error .intFromFloat
    else if -0x8000000000000000 < n && n < 0x8000000000000000 then .ok n
    else .error .intParsingSize

/-- A finite decimal number without fraction. -/
def wholeDecimal : Decimal → Except IssueKind Int
  | .finite negative coefficient exponent =>
    if 0 ≤ exponent then .ok (Numeral.signed negative (coefficient * Nat.pow 10 exponent.toNat))
    else if coefficient % Nat.pow 10 (-exponent).toNat = 0 then
      .ok (Numeral.signed negative (coefficient / Nat.pow 10 (-exponent).toNat))
    else .error .intFromFloat
  | _ => .error .finiteNumber

/-- The whole number that a value stands for: itself, a truth value, a double or decimal number
    without fraction, or a text. -/
def intOf : Value → Except IssueKind Int
  | .int n => .ok n
  | .bool b => .ok (if b then 1 else 0)
  | .float x => wholeFloat x
  | .decimal d => wholeDecimal d
  | .text s => readInt s
  | .damaged _ => .error .stringUnicode
  | _ => .error .intType

/-- A whole number. -/
def int (location : List String) (v : Value) : Validated Int :=
  (intOf v).mapError fun kind => [⟨kind, location, v⟩]

/-- A whole number or null. -/
def int? (location : List String) : Value → Validated (Option Int)
  | .null => .ok none
  | v => (int location v).map some

/-- The words for the truth values, in any ASCII case. -/
def boolWord? (s : String) : Option Bool :=
  let word := String.ofList (asciiLower s.toList)
  if ["1", "on", "t", "true", "y", "yes"].contains word then some true
  else if ["0", "off", "f", "false", "n", "no"].contains word then some false
  else none

/-- The truth value of a whole number: zero or one. -/
def boolOfInt? (n : Int) : Option Bool :=
  if n = 0 then some false else if n = 1 then some true else none

/-- The truth value that a value stands for: itself, one of its words, or a zero or one. Numbers
    beyond 64 bits or with a fraction are no truth values at all. -/
def boolOf : Value → Except IssueKind Bool
  | .bool b => .ok b
  | .text s => (boolWord? s).elim (.error .boolParsing) .ok
  | .damaged _ => .error .stringUnicode
  | .int n =>
    if -0x8000000000000000 ≤ n && n < 0x8000000000000000 then
      (boolOfInt? n).elim (.error .boolParsing) .ok
    else .error .boolType
  | .float x => match wholeFloat x with
    | .ok n => (boolOfInt? n).elim (.error .boolParsing) .ok
    | .error _ => .error .boolType
  | _ => .error .boolType

/-- A truth value. -/
def bool (location : List String) (v : Value) : Validated Bool :=
  (boolOf v).mapError fun kind => [⟨kind, location, v⟩]

/-- A text, or null for none. -/
def string? (location : List String) : Value → Validated (Option String)
  | .null => .ok none
  | v => (string location v).map some

/-- A double in ASCII notation or one of its words. -/
def plainFloat? (cs : List Char) : Option Binary64 :=
  let (negative, rest) := Numeral.takeSign cs
  if Numeral.isWord "inf" rest || Numeral.isWord "infinity" rest then some (.infinite negative)
  else if Numeral.isWord "nan" rest then some .nan
  else
    (Numeral.scientific? rest).map fun n =>
      Binary64.ofScientific negative n.coefficient n.exponent

/-- Reads a double. It may have margins or single underscores, but not both. -/
def readFloat? (s : String) : Option Binary64 :=
  (plainFloat? (trimMargin s.toList)).or (plainFloat? (dropSeparators s.toList))

end Validation

end QueryDesk

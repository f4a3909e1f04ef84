import QueryDesk.Text.Hex
import QueryDesk.Value.Basic

/-!
# Reading JSON

`Json.readChars` turns a text into a value. The words `NaN`, `Infinity` and `-Infinity` are numbers,
a repeated key keeps its first place and takes its last value, and the first fault of a text is
reported with its cause and its position. An escape may stand for half of a character; a string in
which a half stands alone is read as damaged.
-/

namespace QueryDesk.Json

/-- Why a text is no JSON. -/
inductive Cause where
  | value
  | key
  | colon
  | comma
  | openString
  | control
  | escape
  | unicodeEscape
  | extra
  /-- A whole number of more digits than are read. -/
  | digits (count : Nat)
  /-- A value within more arrays and objects than are read. -/
  | nesting
  deriving DecidableEq, Repr

/-- A fault, where `remaining` characters of the text lie after its place. -/
structure Fault where
  cause : Cause
  remaining : Nat
  deriving DecidableEq, Repr

/-- A fault at the front of `cs`. -/
def faultAt {α : Type} (cause : Cause) (cs : List Char) : Except Fault α :=
  .error ⟨cause, cs.length⟩

/-- One of the four blanks of JSON. -/
def isSpace (c : Char) : Bool :=
  c == ' ' || c == '\t' || c == '\n' || c == '\r'

/-- A text without the blanks at its front. -/
def skip (cs : List Char) : List Char :=
  cs.dropWhile isSpace

/-- The character of a short escape. -/
def shortEscape? : Char → Option Char
  | '"' => some '"'
  | '\\' => some '\\'
  | '/' => some '/'
  | 'b' => some (Char.ofNat 8)
  | 'f' => some (Char.ofNat 12)
  | 'n' => some '\n'
  | 'r' => some '\r'
  | 't' => some '\t'
  | _ => none

/-- The value of four hexadecimal digits. -/
def fourHex? : List Char → Option Nat
  | [a, b, c, d] => do
    let a ← Text.hexValue? a
    let b ← Text.hexValue? b
    let c ← Text.hexValue? c
    let d ← Text.hexValue? d
    some (((a * 16 + b) * 16 + c) * 16 + d)
  | _ => none

/-- The unit of a `\u` escape, whose digits begin `cs`; some character has to follow them. -/
def unit? (cs : List Char) : Option Nat :=
  if 4 < cs.length then fourHex? (cs.take 4) else none

/-- The first of the two halves of a character beyond the basic plane. -/
def isHighHalf (unit : Nat) : Bool :=
  0xD800 ≤ unit && unit ≤ 0xDBFF

/-- The second of the two halves. -/
def isLowHalf (unit : Nat) : Bool :=
  0xDC00 ≤ unit && unit ≤ 0xDFFF

/-- The character of a unit; a half has none. -/
def unitChar? (unit : Nat) : Option Char :=
  if isHighHalf unit || isLowHalf unit then none else some (Char.ofNat unit)

/-- What a `\u` escape stands for, whose digits begin `cs`, and how many characters it takes beyond
    the backslash and the letter: a second escape joins the first if both are halves of one
    character. -/
def unicodeEscape (cs : List Char) : Except Fault (Option Char × Nat) :=
  match unit? cs with
  | none => .error ⟨.unicodeEscape, cs.length + 1⟩
  | some unit =>
    match cs.drop 4 with
    | '\\' :: 'u' :: rest =>
      if isHighHalf unit && 4 < rest.length then
        match fourHex? (rest.take 4) with
        | none => .error ⟨.unicodeEscape, rest.length + 1⟩
        | some second =>
          if isLowHalf second then
            .ok (some (Char.ofNat (0x10000 + (unit - 0xD800) * 0x400 + (second - 0xDC00))), 10)
          else .ok (unitChar? unit, 4)
      else .ok (unitChar? unit, 4)
    | _ => .ok (unitChar? unit, 4)

/-- The characters of a string up to its closing quote, with none for a half that stands alone.
    `start` characters of the text lie after the opening quote, and `passed` more are part of an
    escape already read. -/
def stringBody (start : Nat) : (passed : Nat) → List Char →
    Except Fault (List (Option Char) × List Char)
  | _, [] => .error ⟨.openString, start + 1⟩
  | passed + 1, _ :: rest => stringBody start passed rest
  | 0, c :: rest =>
    if c = '"' then .ok ([], rest)
    else if c.toNat ≤ 0x1F then faultAt .control (c :: rest)
    else if c = '\\' then
      match rest with
      | [] => .error ⟨.openString, start + 1⟩
      | e :: more =>
        if e = 'u' then do
          let (char, length) ← unicodeEscape more
          let (chars, after) ← stringBody start (1 + length) rest
          return (char :: chars, after)
        else
          match shortEscape? e with
          | some char => do
            let (chars, after) ← stringBody start 1 rest
            return (some char :: chars, after)
          | none => faultAt .escape (c :: rest)
    else do
      let (chars, after) ← stringBody start 0 rest
      return (some c :: chars, after)

/-- What stands for a half of a character. -/
def replacement : Char := Char.ofNat 0xFFFD

/-- A string whose opening quote has been read, and whether it is damaged. -/
def string (cs : List Char) : Except Fault ((String × Bool) × List Char) := do
  let (chars, rest) ← stringBody cs.length 0 cs
  return ((String.ofList (chars.map (·.getD replacement)), chars.any (·.isNone)), rest)

/-- The whole part of a number: a zero alone, or digits that do not begin with one. -/
def wholePart? : List Char → Option (List Char × List Char)
  | '0' :: rest => some (['0'], rest)
  | cs =>
    let (digits, rest) := cs.span Text.isAsciiDigit
    if digits.isEmpty then none else some (digits, rest)

/-- The digits after a point, if there are any; otherwise the point is no part of the number. -/
def fractionPart (cs : List Char) : List Char × List Char :=
  match cs with
  | '.' :: rest =>
    let (digits, after) := rest.span Text.isAsciiDigit
    if digits.isEmpty then ([], cs) else (digits, after)
  | _ => ([], cs)

/-- The exponent, if digits follow its letter; otherwise the letter is no part of the number. -/
def exponentPart (cs : List Char) : Option Int × List Char :=
  match cs with
  | e :: rest =>
    if e = 'e' || e = 'E' then
      let (negative, rest) := Numeral.takeSign rest
      let (digits, after) := rest.span Text.isAsciiDigit
      if digits.isEmpty then (none, cs)
      else (some (Numeral.signed negative (Numeral.natOfDigits digits)), after)
    else (none, cs)
  | [] => (none, cs)

/-- A number: whole without fraction and exponent, and otherwise a double. -/
def number (cs : List Char) : Except Fault (Value × List Char) :=
  let (negative, unsigned) := match cs with
    | '-' :: rest => (true, rest)
    | _ => (false, cs)
  match wholePart? unsigned with
  | none => faultAt .value cs
  | some (whole, rest) =>
    let (fraction, rest) := fractionPart rest
    let (exponent, rest) := exponentPart rest
    if fraction.isEmpty && exponent.isNone then
      if whole.length ≤ Numeral.maxDigits then
        .ok (.int (Numeral.signed negative (Numeral.natOfDigits whole)), rest)
      else faultAt (.digits whole.length) cs
    else
      let coefficient := Numeral.natOfDigits (whole ++ fraction)
      .ok (.float (Binary64.ofScientific negative coefficient
        (exponent.getD 0 - fraction.length)), rest)

/-- The words that stand for values. -/
def words : List (String × Value) :=
  [("null", .null), ("true", .bool true), ("false", .bool false), ("NaN", .float .nan),
    ("Infinity", .float (.infinite false)), ("-Infinity", .float (.infinite true))]

/-- The value of the word that begins a text. -/
def word? (cs : List Char) : Option (Value × List Char) :=
  words.findSome? fun (word, value) => (word.toList.isPrefixOf? cs).map (value, ·)

mutual

/-- Reads a value at the front of a text. It may hold `depth` arrays and objects around each
    other. -/
def value : (fuel depth : Nat) → List Char → Except Fault (Value × List Char)
  | 0, _, cs => faultAt .value cs
  | fuel + 1, depth, cs =>
    match cs, depth with
    | '"' :: rest, _ => do
      let ((s, isDamaged), rest) ← string rest
      return (if isDamaged then .damaged s else .text s, rest)
    | '\x7b' :: _, 0 | '[' :: _, 0 => faultAt .nesting cs
    | '\x7b' :: rest, depth + 1 =>
      match skip rest with
      | '\x7d' :: after => .ok (.object [], after)
      | inner => do
        let (pairs, after) ← members fuel depth inner
        return (.object (Members.ofPairs pairs), after)
    | '[' :: rest, depth + 1 =>
      match skip rest with
      | ']' :: after => .ok (.list [], after)
      | inner => do
        let (values, after) ← items fuel depth inner
        return (.list values, after)
    | _, _ =>
      match word? cs with
      | some found => .ok found
      | none => number cs

/-- Reads the items of an array up to its closing bracket. -/
def items : (fuel depth : Nat) → List Char → Except Fault (List Value × List Char)
  | 0, _, cs => faultAt .value cs
  | fuel + 1, depth, cs => do
    let (first, rest) ← value fuel depth cs
    match skip rest with
    | ']' :: after => return ([first], after)
    | ',' :: after =>
      let (others, after) ← items fuel depth (skip after)
      return (first :: others, after)
    | rest => faultAt .comma rest

/-- Reads the members of an object up to its closing brace. -/
def members : (fuel depth : Nat) → List Char → Except Fault (List (String × Value) × List Char)
  | 0, _, cs => faultAt .key cs
  | fuel + 1, depth, cs =>
    match cs with
    | '"' :: rest => do
      let ((key, _), rest) ← string rest
      match skip rest with
      | ':' :: rest =>
        let (first, rest) ← value fuel depth (skip rest)
        match skip rest with
        | '\x7d' :: after => return ([(key, first)], after)
        | ',' :: after =>
          let (others, after) ← members fuel depth (skip after)
          return ((key, first) :: others, after)
        | rest => faultAt .comma rest
      | rest => faultAt .colon rest
    | _ => faultAt .key cs

end

/-- Reads a text that is one value and blanks around it. No more than `depth` arrays and objects may
    lie around each other. An array takes two steps for a bracket or a comma, and an object one for
    a key and its value, so twice the length of the text bounds the steps. -/
def readChars (depth : Nat) (cs : List Char) : Except Fault Value := do
  let (found, rest) ← value (2 * cs.length + 1) depth (skip cs)
  match skip rest with
  | [] => return found
  | rest => faultAt .extra rest

/-- The texts that are read as JSON. -/
inductive Source where
  /-- The payload of a request. -/
  | payload
  /-- The body of an answer to a request of our own. -/
  | reply
  /-- The header or the claims of a token. -/
  | token
  /-- A secret to check tokens with. -/
  | secret
  deriving DecidableEq, Repr

/-- How many arrays and objects may lie around each other in the texts that are read. The language
    limits it by the calls that are under way, so that it differs from source to source. -/
structure Nesting where
  limit : Source → Nat
  /-- What the service itself writes, a list in an object at most, can be read everywhere. -/
  room : ∀ source, 2 ≤ limit source

/-- The same limit for all sources. -/
def Nesting.uniform (depth : Nat) (room : 2 ≤ depth) : Nesting :=
  ⟨fun _ => depth, fun _ => room⟩

/-- The wording of a cause. -/
def Cause.text : Cause → String
  | .value => "Expecting value"
  | .key => "Expecting property name enclosed in double quotes"
  | .colon => "Expecting ':' delimiter"
  | .comma => "Expecting ',' delimiter"
  | .openString => "Unterminated string starting at"
  | .control => "Invalid control character at"
  | .escape => "Invalid \\escape"
  | .unicodeEscape => "Invalid \\uXXXX escape"
  | .extra => "Extra data"
  | .digits count =>
    s!"Exceeds the limit ({Numeral.maxDigits} digits) for integer string conversion: " ++
      s!"value has {count} digits; use sys.set_int_max_str_digits() to increase the limit"
  | .nesting => "Nesting too deep at"

/-- The place of a fault, counted in characters from the front of the text. -/
def Fault.position (cs : List Char) (f : Fault) : Nat :=
  cs.length - f.remaining

/-- The message about a fault: its cause and the line, column and position of its place. -/
def Fault.message (cs : List Char) (f : Fault) : String :=
  match f.cause with
  | .digits _ => f.cause.text
  | _ =>
    let position := f.position cs
    let before := cs.take position
    let line := before.count '\n' + 1
    let column := (before.reverse.takeWhile (· ≠ '\n')).length + 1
    s!"{f.cause.text}: line {line} column {column} (char {position})"

end QueryDesk.Json

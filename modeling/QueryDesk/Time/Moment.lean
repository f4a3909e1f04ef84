import QueryDesk.Number.Numeral
import QueryDesk.Time.Calendar

/-!
# Moments

A moment is a local time in microseconds, with the offset of its zone when it has one. Moments are
written in the extended ISO 8601 format.
-/

namespace QueryDesk

/-- A local time, counted in microseconds from the start of year 1, and the number of microseconds
    that its zone is ahead of universal time. -/
structure Moment where
  micros : Int
  offset? : Option Int
  deriving DecidableEq, Repr, Inhabited

namespace Moment

open Calendar

/-- Microseconds in a second. -/
def second : Int := 1000000

/-- Microseconds in a day. -/
def day : Int := 86400 * second

/-- The first count of microseconds past the year 9999. -/
def endOfTime : Int := endOfDays * day

/-- A local time within the years 1 to 9999. -/
def inRange (micros : Int) : Bool :=
  0 ≤ micros && micros < endOfTime

/-- The fields of a local time. -/
structure Fields where
  date : Date
  hour : Nat
  minute : Nat
  second : Nat
  micro : Nat
  deriving DecidableEq, Repr

/-- The fields of a moment's local time. -/
def fields (m : Moment) : Fields :=
  let days := m.micros / day
  let rest := (m.micros % day).toNat
  ⟨Date.ofDays days.toNat, rest / 3600000000, rest / 60000000 % 60, rest / 1000000 % 60,
    rest % 1000000⟩

/-- The local time of a date and a time of day. -/
def ofFields (f : Fields) : Int :=
  f.date.toDays * day + ((f.hour * 60 + f.minute) * 60 + f.second : Nat) * second + f.micro

/-- Hours, minutes and seconds between colons. -/
def Fields.clock (f : Fields) : List Char :=
  padded 2 f.hour ++ ':' :: padded 2 f.minute ++ ':' :: padded 2 f.second

/-- A zone offset: sign, hours and minutes, then seconds unless nothing is below the minutes, and
    microseconds only if there are any. -/
def offsetText (offset : Int) : List Char :=
  let n := offset.natAbs / 1000000
  let micro := offset.natAbs % 1000000
  (if offset < 0 then '-' else '+') :: padded 2 (n / 3600) ++ ':' :: padded 2 (n / 60 % 60) ++
    (if n % 60 = 0 ∧ micro = 0 then [] else ':' :: padded 2 (n % 60)) ++
    (if micro = 0 then [] else '.' :: padded 6 micro)

/-- Date and time with a separator between them; microseconds only if there are any. -/
def textWith (separator : Char) (m : Moment) : String :=
  let f := m.fields
  String.ofList <|
    f.date.text ++ separator :: f.clock ++
      (if f.micro = 0 then [] else '.' :: padded 6 f.micro) ++
      (m.offset?.map offsetText).getD []

/-- The ISO 8601 text. -/
def isoText (m : Moment) : String :=
  m.textWith 'T'

/-- The text under which a local time is stored: the zone is dropped and the six places of the
    microseconds are always there. -/
def storedText (m : Moment) : List Char :=
  let f := m.fields
  f.date.text ++ ' ' :: f.clock ++ '.' :: padded 6 f.micro

/-- The microseconds since the start of year 1 in universal time; a moment without zone counts as
    universal time. -/
def universal (m : Moment) : Int :=
  m.micros - m.offset?.getD 0

/-- The same moment in universal time, unless it leaves the calendar. -/
def toUtc? (m : Moment) : Option Moment :=
  if inRange m.universal then some ⟨m.universal, some 0⟩ else none

/-- The local time of a moment without its zone. -/
def unzoned (m : Moment) : Moment :=
  { m with offset? := none }

/-- The moment this many microseconds later, unless it leaves the calendar. -/
def add? (m : Moment) (micros : Int) : Option Moment :=
  if inRange (m.micros + micros) then some { m with micros := m.micros + micros } else none

/-- Microseconds since the start of 1970 in universal time. -/
def sinceEpoch (m : Moment) : Int :=
  m.universal - epochDays * day

/-- Reads a number of exactly `width` ASCII digits and gives what follows. -/
def number? (width : Nat) (cs : List Char) : Option (Nat × List Char) :=
  let digits := cs.take width
  if digits.length = width ∧ digits.all Text.isAsciiDigit then
    some (Numeral.natOfDigits digits, cs.drop width)
  else none

/-- A number after a mark, if the mark is there. -/
def markedNumber? (mark : Char) : List Char → Option (Nat × List Char)
  | c :: rest => if c = mark then number? 2 rest else none
  | [] => none

/-- Reads a date. -/
def date? (cs : List Char) : Option (Date × List Char) := do
  let (year, rest) ← number? 4 cs
  let (month, rest) ← markedNumber? '-' rest
  let (dayOfMonth, rest) ← markedNumber? '-' rest
  let d : Date := ⟨year, month, dayOfMonth⟩
  if d.isValid then some (d, rest) else none

/-- The digits after a decimal point as microseconds. -/
def fraction : List Char → Nat × List Char
  | '.' :: rest =>
    let (digits, rest) := rest.span Text.isAsciiDigit
    (Numeral.natOfDigits (digits.take 6 ++ List.replicate (6 - digits.length) '0'), rest)
  | cs => (0, cs)

/-- Reads hours and, as far as they are there, minutes, seconds and their fraction. -/
def clock? (cs : List Char) : Option (Nat × Nat × Nat × Nat × List Char) := do
  let (hour, rest) ← number? 2 cs
  let (minute, rest) := (markedNumber? ':' rest).getD (0, rest)
  let (sec, rest) := (markedNumber? ':' rest).getD (0, rest)
  let (micro, rest) := fraction rest
  if hour < 24 ∧ minute < 60 ∧ sec < 60 then some (hour, minute, sec, micro, rest) else none

/-- Reads a zone at the end of a text: nothing, `Z` or an offset. An offset below one second counts
    as none. -/
def zone? : List Char → Option (Option Int)
  | [] => some none
  | ['Z'] => some (some 0)
  | c :: rest =>
    if c = '+' || c = '-' then do
      let (hour, minute, sec, micro, rest) ← clock? rest
      let seconds := (hour * 60 + minute) * 60 + sec
      let n : Int := if seconds = 0 then 0 else seconds * second + micro
      if rest.isEmpty then some (some (if c = '-' then -n else n)) else none
    else none

/-- Reads a moment: a date, and after any separator a time of day and a zone. -/
def parse? (s : String) : Option Moment := do
  let (d, rest) ← date? s.toList
  match rest with
  | [] => some ⟨ofFields ⟨d, 0, 0, 0, 0⟩, none⟩
  | _ :: rest =>
    let (hour, minute, sec, micro, rest) ← clock? rest
    let zone ← zone? rest
    some ⟨ofFields ⟨d, hour, minute, sec, micro⟩, zone⟩

end Moment

end QueryDesk

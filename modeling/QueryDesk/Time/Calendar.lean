/-!
# The calendar

Days are counted from the first day of year 1 in the Gregorian calendar, extended backwards.
-/

namespace QueryDesk.Calendar

/-- A year has a twenty-ninth of February. -/
def isLeap (year : Nat) : Bool :=
  year % 4 == 0 && (year % 100 != 0 || year % 400 == 0)

/-- The lengths of the months of a year. -/
def monthLengths (year : Nat) : List Nat :=
  [31, if isLeap year then 29 else 28, 31, 30, 31, 30, 31, 31, 30, 31, 30, 31]

/-- The number of days before the first of January of a year. -/
def daysBeforeYear (year : Nat) : Nat :=
  let y := year - 1
  y * 365 + y / 4 - y / 100 + y / 400

/-- The number of days before the first of a month within its year. -/
def daysBeforeMonth (year month : Nat) : Nat :=
  ((monthLengths year).take (month - 1)).foldl Nat.add 0

/-- A day of the calendar. -/
structure Date where
  year : Nat
  month : Nat
  day : Nat
  deriving DecidableEq, Repr

/-- The date exists and its year has at most four digits. -/
def Date.isValid (d : Date) : Bool :=
  1 ≤ d.year && d.year ≤ 9999 && 1 ≤ d.month && d.month ≤ 12 && 1 ≤ d.day &&
    d.day ≤ ((monthLengths d.year)[d.month - 1]?).getD 0

/-- The number of days before a date. -/
def Date.toDays (d : Date) : Nat :=
  daysBeforeYear d.year + daysBeforeMonth d.year d.month + (d.day - 1)

/-- The month and the day of the month at a distance from the first of the month `month`. -/
def monthAndDay : (month : Nat) → (lengths : List Nat) → (days : Nat) → Nat × Nat
  | month, [], days => (month, days + 1)
  | month, length :: lengths, days =>
    if days < length then (month, days + 1) else monthAndDay (month + 1) lengths (days - length)

/-- The date before which this many days lie: four centuries have 146097 days, and their last
    century and the last year of a cycle of four take the day that is left over. -/
def Date.ofDays (days : Nat) : Date :=
  let (cycles, days) := (days / 146097, days % 146097)
  let centuries := min 3 (days / 36524)
  let days := days - centuries * 36524
  let (quads, days) := (days / 1461, days % 1461)
  let years := min 3 (days / 365)
  let days := days - years * 365
  let year := 400 * cycles + 100 * centuries + 4 * quads + years + 1
  let (month, day) := monthAndDay 1 (monthLengths year) days
  ⟨year, month, day⟩

/-- The first number of days past the year 9999. -/
def endOfDays : Nat := daysBeforeYear 10000

/-- The number of days before the first of January 1970. -/
def epochDays : Nat := daysBeforeYear 1970

/-- A number with zeros before it up to a width. -/
def padded (width n : Nat) : List Char :=
  let digits := Nat.toDigits 10 n
  List.replicate (width - digits.length) '0' ++ digits

/-- Year, month and day between hyphens. -/
def Date.text (d : Date) : List Char :=
  padded 4 d.year ++ '-' :: padded 2 d.month ++ '-' :: padded 2 d.day

end QueryDesk.Calendar

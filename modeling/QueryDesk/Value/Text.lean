import QueryDesk.Text.Quoted
import QueryDesk.Text.Segments
import QueryDesk.Value.Basic

/-!
# The text of a value

`Value.text?` is the text that a value stands for where a text is asked for, and `Value.shown?` the
form in which it is shown inside a collection. Both fail on a value that holds a whole number of
more than `Numeral.maxDigits` digits, and on no other.
-/

namespace QueryDesk

/-- The decimal text of a whole number, unless it has too many digits. -/
def intText? (n : Int) : Option String :=
  if n.natAbs < Nat.pow 10 Numeral.maxDigits then some (toString n) else none

/-- A zone offset in microseconds, as days, seconds of a day and microseconds of a second. -/
def offsetShown (offset : Int) : String :=
  if offset = 0 then "datetime.timezone.utc"
  else
    let days := offset / Moment.day
    let seconds := offset % Moment.day / Moment.second
    let micros := offset % Moment.second
    let parts := (if days = 0 then [] else [s!"days={days}"]) ++
      (if seconds = 0 then [] else [s!"seconds={seconds}"]) ++
      (if micros = 0 then [] else [s!"microseconds={micros}"])
    "datetime.timezone(datetime.timedelta(" ++ Text.joined ", " parts ++ "))"

/-- A moment as shown inside a collection: its fields, trailing zero seconds and microseconds left
    out, and its zone. -/
def momentShown (m : Moment) : String :=
  let f := m.fields
  let time :=
    if f.micro ≠ 0 then [f.second, f.micro] else if f.second ≠ 0 then [f.second] else []
  let numbers := [f.date.year, f.date.month, f.date.day, f.hour, f.minute] ++ time
  let zone := m.offset?.elim [] fun offset => [s!"tzinfo={offsetShown offset}"]
  "datetime.datetime(" ++ Text.joined ", " (numbers.map toString ++ zone) ++ ")"

/-- A date as shown inside a collection. -/
def dateShown (days : Nat) : String :=
  let d := Calendar.Date.ofDays days
  s!"datetime.date({d.year}, {d.month}, {d.day})"

/-- The word for a truth value. -/
def boolText (b : Bool) : String :=
  if b then "True" else "False"

mutual

/-- A value as shown inside a collection. -/
def Value.shown? : Value → Option String
  | .null => some "None"
  | .bool b => some (boolText b)
  | .int n => intText? n
  | .float x => some x.text
  | .decimal d => some s!"Decimal('{d.text}')"
  | .text s | .damaged s => some (Text.Quoted.encode s)
  | .uuid u => some s!"UUID('{u.text}')"
  | .moment m => some (momentShown m)
  | .date days => some (dateShown days)
  | .list items => do
    let parts ← shownItems? items
    some ("[" ++ Text.joined ", " parts ++ "]")
  | .tuple items => do
    match ← shownItems? items with
    | [single] => some s!"({single},)"
    | parts => some ("(" ++ Text.joined ", " parts ++ ")")
  | .object members => do
    let parts ← shownMembers? members
    some ("\x7b" ++ Text.joined ", " parts ++ "\x7d")

/-- The items of a collection as shown. -/
def shownItems? : List Value → Option (List String)
  | [] => some []
  | item :: rest => do
    let first ← item.shown?
    let others ← shownItems? rest
    some (first :: others)

/-- The members of an object as shown. -/
def shownMembers? : List (String × Value) → Option (List String)
  | [] => some []
  | (key, value) :: rest => do
    let first ← value.shown?
    let others ← shownMembers? rest
    some ((Text.Quoted.encode key ++ ": " ++ first) :: others)

end

/-- The text of a value. -/
def Value.text? : Value → Option String
  | .text s | .damaged s => some s
  | .decimal d => some d.text
  | .uuid u => some u.text
  | .moment m => some (m.textWith ' ')
  | .date days => some (String.ofList (Calendar.Date.ofDays days).text)
  | value => value.shown?

end QueryDesk

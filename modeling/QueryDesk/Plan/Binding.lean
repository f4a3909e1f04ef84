import QueryDesk.Catalog
import QueryDesk.Plan.Fault
import QueryDesk.Text.Blank
import QueryDesk.Value.Text

/-!
# Binding operands to columns

An operand is compared with a column only as a value that the column's kind admits. An operand that
binds to nothing matches no row.
-/

namespace QueryDesk.Binding

/-- The kinds of number that a text may be read as. -/
inductive NumberKind where
  | whole
  | double
  | decimal
  deriving DecidableEq, Repr

/-- Reads a text as a finite number of a kind. -/
def readNumber? (kind : NumberKind) (cs : List Char) : Option Value :=
  match kind with
  | .whole => (Numeral.readInt? cs).map .int
  | .double => (Numeral.readBinary64? cs).bind fun x => if x.isFinite then some (.float x) else none
  | .decimal => (Numeral.readDecimal? cs).bind fun d =>
      if d.isFinite then some (.decimal d) else none

/-- What an operand is on a column of numbers: a number is itself, a truth value nothing, and any
    other value the number that its text is read as. -/
def number (kind : NumberKind) : Value → Except PlanFault (Option Value)
  | .bool _ => .ok none
  | .int n => .ok (some (.int n))
  | .float x => .ok (some (.float x))
  | .decimal d => .ok (some (.decimal d))
  | v => match v.text? with
    | some s => .ok (readNumber? kind (Text.trim s.toList))
    | none => .error .tooManyDigits

/-- What an operand is on a column of a kind; `none` is nothing at all, while null stays null on the
    columns that hold no numbers. -/
def bind : ColumnKind → Value → Except PlanFault (Option Value)
  | .whole, v => number .whole v
  | .decimal, v => number .decimal v
  | .uuid, .text s => .ok ((Uuid.parse? (Text.strip s)).map .uuid)
  | .text, .int n => match intText? n with
    | some s => .ok (some (.text s))
    | none => .error .tooManyDigits
  | .text, .float x => .ok (some (.text x.text))
  | _, .null => .ok none
  | _, v => .ok (some v)

end QueryDesk.Binding

/-!
# Faults of statements
-/

namespace QueryDesk

/-- Why a statement cannot be run. -/
inductive StoreFault where
  /-- An operand has no form for the type of its column. -/
  | unboundable
  /-- A table stands twice in a statement without a name to tell the two apart. -/
  | ambiguousTable
  /-- An operand is of a kind that no column can hold. -/
  | unsupportedOperand
  /-- A whole number is outside the range of a column. -/
  | integerRange
  deriving DecidableEq, Repr

end QueryDesk

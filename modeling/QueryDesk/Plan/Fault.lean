/-!
# Faults of plans
-/

namespace QueryDesk

/-- Why a specification cannot be planned. -/
inductive PlanFault where
  /-- An ordering comparison with null or a truth value. -/
  | unorderedOperand
  /-- A group that is no list of clauses. -/
  | groupNotList
  /-- A whole number has too many digits for a text. -/
  | tooManyDigits
  deriving DecidableEq, Repr

end QueryDesk

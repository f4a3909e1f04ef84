/-!
# Faults of query parameters
-/

namespace QueryDesk

/-- Why parameters cannot be compiled. Parameters that are texts meet the second fault only. -/
inductive QueryFault where
  /-- The sort parameter is no text. -/
  | sortNotText
  /-- A filter on a field named like a group has taken the place of that group. -/
  | groupTaken
  /-- A whole number has too many digits for a text. -/
  | tooManyDigits
  deriving DecidableEq, Repr

end QueryDesk

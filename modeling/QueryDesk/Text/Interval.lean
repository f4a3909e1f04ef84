/-!
# Sets of code points given by intervals

A Unicode property is kept as the ascending list of its maximal intervals.
-/

namespace QueryDesk.Text

/-- A run of consecutive code points, both ends included. -/
abbrev Interval := Nat × Nat

/-- The code point lies in one of the intervals. -/
def inIntervals (intervals : List Interval) (point : Nat) : Bool :=
  intervals.any fun interval => interval.1 ≤ point && point ≤ interval.2

end QueryDesk.Text

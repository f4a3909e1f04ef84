import QueryDesk.Text.Case

/-!
# Patterns

In a pattern a percent sign stands for any text and an underscore for any character. Letters match
in either ASCII case. A NUL ends the pattern and the text.
-/

namespace QueryDesk.Like

/-- The suffixes of a text, the longest first. -/
def suffixes : List Char → List (List Char)
  | [] => [[]]
  | c :: rest => (c :: rest) :: suffixes rest

/-- What may remain of a text after one more character of the pattern, given what may have remained
    before it, the longest first. -/
def advance (candidates : List (List Char)) (p : Char) : List (List Char) :=
  if p = '%' then
    match candidates with
    | [] => []
    | longest :: _ => suffixes longest
  else
    candidates.filterMap fun
      | [] => none
      | c :: rest => if p = '_' || c = p then some rest else none

/-- The text matches the pattern, character by character. -/
def matchesExactly (pattern cs : List Char) : Bool :=
  (pattern.foldl advance [cs]).any (·.isEmpty)

/-- A text up to its first NUL. -/
def untilNul (cs : List Char) : List Char :=
  cs.takeWhile (·.toNat ≠ 0)

/-- The text matches the pattern. -/
def holds (pattern cs : List Char) : Bool :=
  matchesExactly (untilNul (Text.asciiLower pattern)) (untilNul (Text.asciiLower cs))

end QueryDesk.Like

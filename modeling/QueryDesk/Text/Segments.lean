/-!
# Cutting at a symbol
-/

namespace QueryDesk.Text

/-- What stands before and after the first occurrence of a symbol. -/
def cut? {α : Type} [BEq α] (symbol : List α) : List α → Option (List α × List α)
  | [] => if symbol.isEmpty then some ([], []) else none
  | c :: rest =>
    match symbol.isPrefixOf? (c :: rest) with
    | some after => some ([], after)
    | none => (cut? symbol rest).map fun (before, after) => (c :: before, after)

/-- The symbol occurs in the text. -/
def occurs {α : Type} [BEq α] (symbol cs : List α) : Bool :=
  (cut? symbol cs).isSome

/-- What stands between the occurrences of a mark: one segment more than occurrences. -/
def splitAt {α : Type} [DecidableEq α] (mark : α) : List α → List (List α)
  | [] => [[]]
  | c :: rest =>
    if c = mark then [] :: splitAt mark rest
    else match splitAt mark rest with
      | [] => [[c]]
      | segment :: segments => (c :: segment) :: segments

/-- `splitAt` on strings. -/
def split (mark : Char) (s : String) : List String :=
  (splitAt mark s.toList).map String.ofList

theorem splitAt_ne_nil {α : Type} [DecidableEq α] (mark : α) (cs : List α) :
    splitAt mark cs ≠ [] := by
  cases cs with
  | nil => simp [splitAt]
  | cons c rest =>
    simp only [splitAt]
    split
    · simp
    · split <;> simp

theorem splitAt_of_notMem {α : Type} [DecidableEq α] {mark : α} {cs : List α} (h : mark ∉ cs) :
    splitAt mark cs = [cs] := by
  induction cs with
  | nil => rfl
  | cons c rest ih =>
    simp only [List.mem_cons, not_or] at h
    simp [splitAt, ih h.2, Ne.symm h.1]

/-- Joining the segments with the mark gives the text back. -/
theorem intercalate_splitAt {α : Type} [DecidableEq α] (mark : α) (cs : List α) :
    [mark].intercalate (splitAt mark cs) = cs := by
  induction cs with
  | nil => rfl
  | cons c rest ih =>
    obtain ⟨segment, segments, eq⟩ := List.exists_cons_of_ne_nil (splitAt_ne_nil mark rest)
    rw [eq] at ih
    by_cases h : c = mark
    · subst h
      cases segments <;> simp_all [splitAt, List.intercalate]
    · cases segments <;> simp_all [splitAt, List.intercalate]

/-- A text with the strings of a list between separators. -/
def joined (separator : String) (parts : List String) : String :=
  separator.intercalate parts

end QueryDesk.Text

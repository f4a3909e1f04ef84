import QueryDesk.Text.Blank

/-!
# Trimming

Trimming takes the blanks from both ends of a text. A text without blanks at its ends is trimmed
already.
-/

namespace QueryDesk.Text

theorem isBlank_of_ascii {c : Char} (above : 32 < c.toNat) (below : c.toNat < 128) :
    isBlank c = false := by
  simp only [isBlank, Bool.or_eq_false_iff, Bool.and_eq_false_iff, decide_eq_false_iff_not,
    beq_eq_false_iff_ne]
  omega

/-- The class has neither the first nor the last of the characters. -/
def IsBare (drop : Char → Bool) (cs : List Char) : Prop :=
  (∀ c, cs.head? = some c → drop c = false) ∧ ∀ c, cs.getLast? = some c → drop c = false

theorem head?_dropWhile {drop : Char → Bool} {cs : List Char} {c : Char}
    (first : (cs.dropWhile drop).head? = some c) : drop c = false := by
  simpa [first] using List.head?_dropWhile_not drop cs

theorem dropWhile_eq_self {drop : Char → Bool} {cs : List Char}
    (kept : ∀ c, cs.head? = some c → drop c = false) : cs.dropWhile drop = cs := by
  cases cs with
  | nil => rfl
  | cons c rest => exact List.dropWhile_cons_of_neg (by simp [kept c rfl])

theorem isBare_of_forall {drop : Char → Bool} {cs : List Char} (none : ∀ c ∈ cs, drop c = false) :
    IsBare drop cs :=
  ⟨fun c first => none c (List.mem_of_head? first), fun c last => none c (List.mem_of_getLast? last)⟩

/-- Nothing is dropped from a text with no character of the class at its ends. -/
theorem dropEnds_eq_self {drop : Char → Bool} {cs : List Char} (bare : IsBare drop cs) :
    dropWhileEnd drop (cs.dropWhile drop) = cs := by
  have back : ∀ c, cs.reverse.head? = some c → drop c = false := by
    intro c last
    exact bare.2 c (by simpa using last)
  rw [dropWhileEnd, dropWhile_eq_self bare.1, dropWhile_eq_self back, List.reverse_reverse]

theorem trim_eq_self {cs : List Char} (bare : IsBare isBlank cs) : trim cs = cs :=
  dropEnds_eq_self bare

theorem isBare_trim (cs : List Char) : IsBare isBlank (trim cs) := by
  have back : ∀ c, (trim cs).getLast? = some c → isBlank c = false := by
    intro c last
    rw [trim, dropWhileEnd, List.getLast?_reverse] at last
    exact head?_dropWhile last
  refine ⟨fun c first => ?_, back⟩
  have start : trim cs <+: cs.dropWhile isBlank := by
    rw [trim, dropWhileEnd, ← List.reverse_suffix, List.reverse_reverse]
    exact List.dropWhile_suffix isBlank
  obtain ⟨rest, whole⟩ := start
  have same : (cs.dropWhile isBlank).head? = some c := by
    rw [← whole, List.head?_append, first]
    rfl
  exact head?_dropWhile same

theorem strip_strip (s : String) : strip (strip s) = strip s := by
  rw [strip, toList_strip, trim_eq_self (isBare_trim s.toList), strip]

end QueryDesk.Text

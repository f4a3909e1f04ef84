import Mathlib.Data.List.Basic
import QueryDesk.Text.Segments

/-!
# Cuts

Where a symbol occurs in a text: `FirstCut` and `Between` say it by what stands before and after the
symbol, and cutting finds just this. `Splits` says it of all occurrences of a mark, and splitting
finds these parts and no others.
-/

namespace QueryDesk.Text

/-- The first occurrence of a symbol in a text is between `before` and `after`. -/
structure FirstCut (symbol before after cs : List Char) : Prop where
  whole : cs = before ++ (symbol ++ after)
  first : ∀ earlier : List Char, earlier.length < before.length → ¬ earlier ++ symbol <+: cs

theorem isPrefixOf?_eq_some_iff {symbol cs after : List Char} :
    symbol.isPrefixOf? cs = some after ↔ cs = symbol ++ after := by
  rw [List.isPrefixOf?_eq_some_iff_append_eq, eq_comm]

theorem isPrefixOf?_eq_none_iff {symbol cs : List Char} :
    symbol.isPrefixOf? cs = none ↔ ¬ symbol <+: cs := by
  rw [Option.eq_none_iff_forall_ne_some]
  constructor
  · rintro none ⟨after, rfl⟩
    exact none after (isPrefixOf?_eq_some_iff.mpr rfl)
  · intro none after found
    exact none ⟨after, (isPrefixOf?_eq_some_iff.mp found).symm⟩

/-- Cutting finds the first occurrence. -/
theorem cut?_eq_some_iff {symbol cs before after : List Char} :
    cut? symbol cs = some (before, after) ↔ FirstCut symbol before after cs := by
  induction cs generalizing before with
  | nil =>
    simp only [cut?]
    constructor
    · intro found
      split at found
      · rename_i empty
        cases found
        obtain rfl := List.isEmpty_iff.mp empty
        exact ⟨rfl, fun earlier short => absurd short (Nat.not_lt_zero _)⟩
      · cases found
    · rintro ⟨whole, -⟩
      obtain ⟨rfl, rest⟩ := List.append_eq_nil_iff.mp whole.symm
      obtain ⟨rfl, rfl⟩ := List.append_eq_nil_iff.mp rest
      rfl
  | cons c rest ih =>
    simp only [cut?]
    cases starts : symbol.isPrefixOf? (c :: rest) with
    | some remainder =>
      have whole := isPrefixOf?_eq_some_iff.mp starts
      constructor
      · intro found
        cases found
        exact ⟨whole, fun earlier short => absurd short (Nat.not_lt_zero _)⟩
      · rintro ⟨whole', first⟩
        cases before with
        | nil =>
          rw [whole] at whole'
          rw [List.append_cancel_left whole']
        | cons b before =>
          exact absurd ⟨remainder, whole.symm⟩ (first [] (Nat.zero_lt_succ _))
    | none =>
      have notHere := isPrefixOf?_eq_none_iff.mp starts
      simp only [Option.map_eq_some_iff, Prod.mk.injEq, Prod.exists]
      constructor
      · rintro ⟨before', after', found, rfl, rfl⟩
        obtain ⟨whole, first⟩ := ih.mp found
        refine ⟨by rw [whole]; rfl, fun earlier short => ?_⟩
        cases earlier with
        | nil => exact notHere
        | cons e earlier =>
          rw [List.cons_append, List.cons_prefix_cons]
          exact fun starts => first earlier (Nat.lt_of_succ_lt_succ short) starts.2
      · rintro ⟨whole, first⟩
        cases before with
        | nil => exact absurd ⟨after, whole.symm⟩ notHere
        | cons b before =>
          obtain ⟨rfl, tail⟩ := List.cons.inj whole
          refine ⟨before, after, ih.mpr ⟨tail, fun earlier short starts => ?_⟩, rfl, rfl⟩
          refine first (c :: earlier) (Nat.succ_lt_succ short) ?_
          rwa [List.cons_append, List.cons_prefix_cons, and_iff_right rfl]

/-- A mark is found where it first stands. -/
theorem cut?_mark {mark : Char} {before : List Char} (unmarked : mark ∉ before)
    (after : List Char) : cut? [mark] (before ++ mark :: after) = some (before, after) := by
  induction before with
  | nil => simp [cut?, List.isPrefixOf?]
  | cons c before ih =>
    rw [List.mem_cons, not_or] at unmarked
    have notHere : [mark].isPrefixOf? (c :: (before ++ mark :: after)) = none := by
      simp [List.isPrefixOf?, unmarked.1]
    rw [List.cons_append, cut?, notHere, ih unmarked.2]
    rfl

/-- A symbol occurs just if it is an infix. -/
theorem occurs_iff {symbol cs : List Char} : occurs symbol cs = true ↔ symbol <:+: cs := by
  unfold occurs
  constructor
  · intro found
    obtain ⟨⟨before, after⟩, cut⟩ := Option.isSome_iff_exists.mp found
    refine ⟨before, after, ?_⟩
    rw [List.append_assoc]
    exact (cut?_eq_some_iff.mp cut).whole.symm
  · rintro ⟨before, after, whole⟩
    induction cs generalizing before with
    | nil =>
      have empty : symbol = [] := by
        have := congrArg List.length whole
        simp only [List.length_append, List.length_nil] at this
        exact List.length_eq_zero_iff.mp (by omega)
      subst empty
      rfl
    | cons c rest ih =>
      simp only [cut?]
      cases starts : symbol.isPrefixOf? (c :: rest) with
      | some remainder => rfl
      | none =>
        have notHere := isPrefixOf?_eq_none_iff.mp starts
        cases before with
        | nil => exact absurd ⟨after, whole⟩ notHere
        | cons b before =>
          rw [Option.isSome_map]
          exact ih before (List.cons.inj whole).2

/-- The text between the first and the second occurrence of a symbol, or after the only one. -/
def Between (symbol cs segment : List Char) : Prop :=
  ∃ before after, FirstCut symbol before after cs ∧
    ((¬ symbol <:+: after ∧ segment = after) ∨ ∃ rest, FirstCut symbol segment rest after)

/-! ## Parts -/

/-- The parts of a text between all occurrences of a mark. -/
structure Splits (mark : Char) (s : String) (parts : List String) : Prop where
  nonempty : parts ≠ []
  unmarked : ∀ part ∈ parts, mark ∉ part.toList
  joined : [mark].intercalate (parts.map String.toList) = s.toList

theorem notMem_of_mem_splitAt {mark : Char} {cs part : List Char} (mem : part ∈ splitAt mark cs) :
    mark ∉ part := by
  induction cs generalizing part with
  | nil =>
    obtain rfl := List.mem_singleton.mp mem
    exact List.not_mem_nil
  | cons c rest ih =>
    obtain ⟨segment, segments, eq⟩ := List.exists_cons_of_ne_nil (splitAt_ne_nil mark rest)
    rw [eq] at ih
    simp only [splitAt, eq] at mem
    split at mem
    · rcases List.mem_cons.mp mem with rfl | later
      · exact List.not_mem_nil
      · exact ih later
    · rename_i other
      rcases List.mem_cons.mp mem with rfl | later
      · rw [List.mem_cons, not_or]
        exact ⟨Ne.symm other, ih List.mem_cons_self⟩
      · exact ih (List.mem_cons_of_mem _ later)

/-- Splitting finds the parts of a text. -/
theorem splits_split (mark : Char) (s : String) : Splits mark s (split mark s) where
  nonempty := by simpa [split] using splitAt_ne_nil mark s.toList
  unmarked := by
    intro part mem
    obtain ⟨cs, isPart, rfl⟩ := List.mem_map.mp mem
    rw [String.toList_ofList]
    exact notMem_of_mem_splitAt isPart
  joined := by
    have same : (split mark s).map String.toList = splitAt mark s.toList := by
      simp [split, Function.comp_def]
    rw [same, intercalate_splitAt]

theorem splitAt_append {mark : Char} {part : List Char} (unmarked : mark ∉ part)
    (rest : List Char) : splitAt mark (part ++ mark :: rest) = part :: splitAt mark rest := by
  induction part with
  | nil => simp [splitAt]
  | cons c part ih =>
    rw [List.mem_cons, not_or] at unmarked
    rw [List.cons_append, splitAt, if_neg (Ne.symm unmarked.1), ih unmarked.2]

theorem splitAt_intercalate {mark : Char} {parts : List (List Char)} (nonempty : parts ≠ [])
    (unmarked : ∀ part ∈ parts, mark ∉ part) :
    splitAt mark ([mark].intercalate parts) = parts := by
  induction parts with
  | nil => exact absurd rfl nonempty
  | cons part rest ih =>
    rw [List.forall_mem_cons] at unmarked
    cases rest with
    | nil => rw [List.intercalate_singleton, splitAt_of_notMem unmarked.1]
    | cons next more =>
      rw [List.intercalate_cons_cons, List.append_assoc, List.singleton_append,
        splitAt_append unmarked.1, ih (List.cons_ne_nil _ _) unmarked.2]

/-- A text has parts in one way only. -/
theorem splits_iff {mark : Char} {s : String} {parts : List String} :
    Splits mark s parts ↔ parts = split mark s := by
  constructor
  · rintro ⟨nonempty, unmarked, joined⟩
    have nonempty' : parts.map String.toList ≠ [] := by simpa using nonempty
    have unmarked' : ∀ part ∈ parts.map String.toList, mark ∉ part := by simpa using unmarked
    rw [split, ← joined, splitAt_intercalate nonempty' unmarked']
    simp [Function.comp_def]
  · rintro rfl
    exact splits_split mark s

end QueryDesk.Text

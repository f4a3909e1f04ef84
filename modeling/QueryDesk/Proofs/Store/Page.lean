import QueryDesk.Store.Select

/-!
# The page of a plan

A plan with a page gives a window of the rows that it would give without. The page can only be at
fault for a limit or an offset that no cell can hold.
-/

namespace QueryDesk

/-! ## Windows -/

/-- The rows that a limit and an offset choose: after as many as the offset says, and no more than
    the limit says. Neither counts if it is negative. -/
def window {α : Type} (limit : Option Int) (offset : Int) (rows : List α) : List α :=
  match limit.filter (0 ≤ ·) with
  | none => rows.drop offset.toNat
  | some n => (rows.drop offset.toNat).take n.toNat

theorem window_of_beyond {α : Type} {limit : Option Int} {offset : Int} {rows : List α}
    (beyond : (rows.length : Int) ≤ offset) : window limit offset rows = [] := by
  have none_left : rows.drop offset.toNat = [] := List.drop_of_length_le (by omega)
  unfold window
  split <;> simp [none_left]

theorem window_natural {α : Type} (size before : Nat) (rows : List α) :
    window (some (size : Int)) (before : Int) rows = (rows.drop before).take size := by
  have counts : (some (size : Int)).filter (0 ≤ ·) = some (size : Int) := by
    rw [Option.filter_some, if_pos (by simp)]
  rw [window, counts]
  rfl

namespace Plan

theorem getD_offsetOf (p : Pagination) : (offsetOf p).getD 0 = p.offset.toNat := by
  unfold offsetOf
  split
  · rfl
  · rw [Option.getD_none]
    omega

theorem limitOf_eq (p : Pagination) : limitOf p = (p.limit.filter (0 ≤ ·)).map Int.toNat := by
  unfold limitOf
  cases p.limit with
  | none => rfl
  | some n =>
    rw [Option.bind_some, Option.filter_some]
    by_cases counts : 0 ≤ n <;> simp [counts]

/-- A page of a plan is the window of its limit and its offset. -/
theorem part_paginate {α : Type} (plan : Plan) (p : Pagination) (rows : List α) :
    part (plan.paginate p) rows = window p.limit p.offset rows := by
  rw [part, paginate, getD_offsetOf, limitOf_eq, window]
  cases p.limit.filter (0 ≤ ·) <;> rfl

end Plan

/-! ## Faults of pages -/

/-- The store can hold the limit and the offset. -/
structure Pagination.Fits (p : Pagination) : Prop where
  limit : ∀ n, p.limit = some n → n < Cell.intBound
  offset : p.offset < Cell.intBound

theorem Cell.fits_iff {n : Int} :
    Cell.fits n = true ↔ -Cell.intBound ≤ n ∧ n < Cell.intBound := by
  simp [Cell.fits]

theorem Cell.fits_toNat {n : Int} : Cell.fits n.toNat = true ↔ n < Cell.intBound := by
  rw [Cell.fits_iff]
  unfold Cell.intBound
  omega

namespace Plan

variable {plan : Plan} {p : Pagination}

theorem pageFault?_eq_none_iff : plan.pageFault? = none ↔
    (∀ n ∈ plan.limit, Cell.fits n = true) ∧ ∀ n ∈ plan.offset, Cell.fits n = true := by
  unfold pageFault?
  split
  · rename_i fits
    simpa [or_imp, forall_and] using fits
  · rename_i exceeds
    simpa [or_imp, forall_and] using exceeds

/-- A page has no fault just if the store can hold it. -/
theorem pageFault?_paginate :
    (plan.paginate p).pageFault? = none ↔ p.Fits := by
  have limits : (∀ n ∈ limitOf p, Cell.fits n = true) ↔
      ∀ n, p.limit = some n → n < Cell.intBound := by
    unfold limitOf
    cases p.limit with
    | none => simp
    | some n =>
      by_cases counts : 0 ≤ n
      · rw [Option.bind_some, if_pos counts]
        simp only [Option.mem_def, Option.some.injEq, forall_eq']
        exact Cell.fits_toNat
      · have small : n < Cell.intBound := by
          unfold Cell.intBound
          omega
        simp [counts, small]
  have offsets : (∀ n ∈ offsetOf p, Cell.fits n = true) ↔ p.offset < Cell.intBound := by
    unfold offsetOf
    by_cases counts : 0 < p.offset
    · rw [if_pos counts]
      simp only [Option.mem_def, Option.some.injEq, forall_eq']
      exact Cell.fits_toNat
    · have small : p.offset < Cell.intBound := by
        unfold Cell.intBound
        omega
      simp [counts, small]
  rw [pageFault?_eq_none_iff]
  exact ⟨fun fits => ⟨limits.mp fits.1, offsets.mp fits.2⟩,
    fun fits => ⟨limits.mpr fits.limit, offsets.mpr fits.offset⟩⟩

/-- Where nothing else is at fault, only the page can be. -/
theorem fault?_paginate_eq (counts : plan.fault? = none) :
    (plan.paginate p).fault? = (plan.paginate p).pageFault? := by
  unfold fault? at counts ⊢
  split at counts
  · cases counts
  · rename_i bindable
    split at counts
    · cases counts
    · rename_i distinct
      rw [Option.or_eq_none_iff] at counts
      have same_bindable : ¬ (!(plan.paginate p).slots.all Operand.Slot.isBindable) = true :=
        bindable
      have same_distinct : ¬ (!(plan.paginate p).hasDistinctTables) = true := distinct
      have same_slots : (plan.paginate p).slots.findSome? Operand.Slot.fault? = none := counts.1
      rw [if_neg same_bindable, if_neg same_distinct, same_slots, Option.none_or]

/-- A page that cells can hold adds no fault. -/
theorem fault?_paginate (counts : plan.fault? = none)
    (holds : (plan.paginate p).pageFault? = none) : (plan.paginate p).fault? = none := by
  rw [fault?_paginate_eq counts, holds]

/-- Where nothing else is at fault, a page that the store cannot hold is. -/
theorem fault?_of_page (counts : plan.fault? = none)
    (exceeds : ¬ p.Fits) : (plan.paginate p).fault? = some .integerRange := by
  have faulty : (plan.paginate p).pageFault? ≠ none := fun none =>
    exceeds (pageFault?_paginate.mp none)
  rw [fault?_paginate_eq counts]
  unfold pageFault? at faulty ⊢
  split at faulty
  · exact absurd rfl faulty
  · rename_i notAll
    rw [if_neg notAll]

end Plan

end QueryDesk

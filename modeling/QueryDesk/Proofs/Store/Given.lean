import QueryDesk.Proofs.Store.Joined

/-!
# The rows that a plan gives

A plan that joins authors at most gives the rows of its entity that meet its conditions, in order,
and of these the part that its limit and its offset take. Ids differ, so that no row is given twice
and none is taken for another.
-/

namespace QueryDesk

theorem Database.Keyed.nodup_rows {db : Database} (keyed : db.Keyed) (e : Entity) :
    (db.rows e).Nodup :=
  (keyed e).of_map _

namespace Plan

/-- Among rows that differ from each other and from those before, none is left out. -/
theorem distinctFrom_of_nodup {seen rows : List Row} (distinct : rows.Nodup)
    (fresh : ∀ row ∈ rows, row ∉ seen) : distinctFrom seen rows = rows := by
  induction rows generalizing seen with
  | nil => rfl
  | cons row rest ih =>
    obtain ⟨notLater, distinct⟩ := List.nodup_cons.mp distinct
    have unseen : seen.contains row = false := by
      simpa using fresh row List.mem_cons_self
    rw [distinctFrom, unseen, if_neg Bool.false_ne_true, ih distinct]
    intro other mem inSeen
    rcases List.mem_cons.mp inSeen with same | earlier
    · rw [same] at mem
      exact notLater mem
    · exact fresh other (List.mem_cons_of_mem row mem) earlier

/-- A row of the plan's entity as the plan sees it. -/
def seen (db : Database) (plan : Plan) (row : Row) : JoinedRow :=
  extended db plan.entity plan.joins row

/-- The rows that meet the plan's conditions. -/
def met (db : Database) (plan : Plan) : List Row :=
  (db.rows plan.entity).filter fun row => accepts plan (seen db plan row)

/-- The rows that meet the plan's conditions, in its order. -/
def ordered (db : Database) (plan : Plan) : List Row :=
  (met db plan).mergeSort fun row other => inOrder plan (seen db plan row) (seen db plan other)

variable {db : Database} {plan : Plan} {root : Entity}

theorem mem_ordered {row : Row} : row ∈ ordered db plan ↔
    row ∈ db.rows plan.entity ∧ accepts plan (seen db plan row) = true := by
  rw [ordered, List.mem_mergeSort, met, List.mem_filter]

theorem nodup_ordered (keyed : db.Keyed) : (ordered db plan).Nodup :=
  (List.mergeSort_perm _ _).nodup_iff.mpr ((keyed.nodup_rows plan.entity).filter _)

theorem Reads.selected_eq (reads : Reads plan root) (keyed : db.Keyed) :
    selected db plan = (met db plan).map (seen db plan) := by
  rw [selected, reads.joinedRows_eq keyed, List.filter_map, ← reads.entity]
  rfl

theorem Reads.sorted_eq (reads : Reads plan root) (keyed : db.Keyed) :
    sorted db plan = (ordered db plan).map (seen db plan) := by
  have same_order : (ordered db plan).map (seen db plan) =
      ((met db plan).map (seen db plan)).mergeSort (inOrder plan) :=
    List.map_mergeSort fun _ _ _ _ => rfl
  rw [sorted, reads.selected_eq keyed, same_order]

theorem Reads.length_selected (reads : Reads plan root) (keyed : db.Keyed) :
    (selected db plan).length = (ordered db plan).length := by
  rw [reads.selected_eq keyed, List.length_map, ordered, List.length_mergeSort]

theorem part_map {α β : Type} (f : α → β) (rows : List α) :
    part plan (rows.map f) = (part plan rows).map f := by
  unfold part
  cases plan.limit <;> simp

theorem part_sublist {α : Type} (rows : List α) : (part plan rows).Sublist rows := by
  unfold part
  cases plan.limit with
  | none => exact List.drop_sublist _ _
  | some limit => exact (List.take_sublist _ _).trans (List.drop_sublist _ _)

/-- A plan gives its part of the rows that meet its conditions, in its order. -/
theorem Reads.run_eq (reads : Reads plan root) (keyed : db.Keyed) :
    run db plan = part plan (ordered db plan) := by
  have roots : ∀ rows : List Row, (rows.map (seen db plan)).filterMap JoinedRow.root? = rows := by
    intro rows
    rw [List.filterMap_map]
    exact List.filterMap_some
  rw [run, reads.sorted_eq keyed, part_map, roots]
  apply distinctFrom_of_nodup ((nodup_ordered keyed).sublist (part_sublist _))
  intro row _ inNone
  cases inNone

theorem Reads.paginate (reads : Reads plan root) (p : Pagination) : Reads (plan.paginate p) root :=
  ⟨reads.entity, reads.joins⟩

theorem ordered_paginate (p : Pagination) : ordered db (plan.paginate p) = ordered db plan := rfl

/-- Without limit and offset a plan gives all rows that meet its conditions. -/
theorem Reads.run_unlimited (reads : Reads plan root) (keyed : db.Keyed) :
    run db (plan.paginate {}) = ordered db plan := by
  rw [(reads.paginate {}).run_eq keyed, ordered_paginate]
  exact List.drop_zero

end Plan

end QueryDesk

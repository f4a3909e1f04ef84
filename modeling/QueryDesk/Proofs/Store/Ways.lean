import Mathlib.Algebra.GroupWithZero.Nat
import QueryDesk.Proofs.Store.Given

/-!
# How often a row is counted

Joining gives a row of the plan's entity once for each combination with associated rows. A plan
counts the combinations that meet its conditions, and gives each row that has one of them once.
-/

namespace QueryDesk

namespace Plan

/-- A row with each combination of associated rows. -/
def combinations (db : Database) (plan : Plan) (row : Row) : List JoinedRow :=
  plan.joins.foldl
    (fun rows join => rows.flatMap (joinOnto db join (sourceOf plan.entity plan.joins join)))
    [[(plan.entity, some row)]]

/-- The number of combinations of a row that meet the plan's conditions. -/
def ways (db : Database) (plan : Plan) (row : Row) : Nat :=
  (combinations db plan row).countP (accepts plan)

theorem foldl_flatMap {α β : Type} (step : β → α → List α) (joins : List β) {γ : Type}
    (start : γ → List α) (xs : List γ) :
    joins.foldl (fun rows join => rows.flatMap (step join)) (xs.flatMap start) =
      xs.flatMap fun x => joins.foldl (fun rows join => rows.flatMap (step join)) (start x) := by
  induction joins generalizing start with
  | nil => rfl
  | cons join rest ih =>
    simp only [List.foldl_cons, List.flatMap_assoc]
    exact ih fun x => (start x).flatMap (step join)

theorem joinedRows_eq_flatMap (db : Database) (plan : Plan) :
    joinedRows db plan = (db.rows plan.entity).flatMap (combinations db plan) := by
  rw [joinedRows, List.map_eq_flatMap, foldl_flatMap]
  rfl

variable {db : Database} {plan : Plan}

theorem mem_joinOnto {join : Join} {source : Entity} {row other : JoinedRow}
    (mem : other ∈ joinOnto db join source row) :
    ∃ found, other = row ++ [(join.association.target, found)] := by
  unfold joinOnto at mem
  split at mem
  · exact ⟨none, List.mem_singleton.mp mem⟩
  · obtain ⟨r, -, rfl⟩ := List.mem_map.mp mem
    exact ⟨some r, rfl⟩

theorem length_selected (db : Database) (plan : Plan) :
    (selected db plan).length = ((db.rows plan.entity).map (ways db plan)).sum := by
  rw [selected, ← List.countP_eq_length_filter, joinedRows_eq_flatMap, List.countP_flatMap]
  rfl

/-- A combination has the row that it was made for. -/
theorem root?_of_mem {row : Row} {combination : JoinedRow}
    (mem : combination ∈ combinations db plan row) : combination.root? = some row := by
  have begins : ∀ (joins : List Join) (rows : List JoinedRow),
      (∀ r ∈ rows, ∃ more, r = (plan.entity, some row) :: more) →
      ∀ r ∈ joins.foldl (fun rows join =>
        rows.flatMap (joinOnto db join (sourceOf plan.entity plan.joins join))) rows,
        ∃ more, r = (plan.entity, some row) :: more := by
    intro joins
    induction joins with
    | nil => exact fun rows held => held
    | cons join rest ih =>
      intro rows held
      refine ih _ fun r mem => ?_
      obtain ⟨earlier, inRows, joined⟩ := List.mem_flatMap.mp mem
      obtain ⟨more, rfl⟩ := held earlier inRows
      obtain ⟨found, rfl⟩ := mem_joinOnto joined
      exact ⟨_, rfl⟩
  obtain ⟨more, rfl⟩ := begins plan.joins [[(plan.entity, some row)]] (by simp) combination mem
  rfl

theorem mem_roots {row : Row} : row ∈ (selected db plan).filterMap JoinedRow.root? ↔
    row ∈ db.rows plan.entity ∧ 1 ≤ ways db plan row := by
  simp only [List.mem_filterMap, selected, List.mem_filter, joinedRows_eq_flatMap,
    List.mem_flatMap, ways, Nat.one_le_iff_ne_zero, ← Nat.pos_iff_ne_zero, List.countP_pos_iff]
  constructor
  · rintro ⟨combination, ⟨⟨other, inRows, made⟩, meets⟩, same⟩
    obtain rfl := Option.some.inj ((root?_of_mem made).symm.trans same)
    exact ⟨inRows, combination, made, meets⟩
  · rintro ⟨inRows, combination, made, meets⟩
    exact ⟨combination, ⟨⟨row, inRows, made⟩, meets⟩, root?_of_mem made⟩

theorem mem_distinctFrom {seen rows : List Row} {row : Row} :
    row ∈ distinctFrom seen rows ↔ row ∈ rows ∧ row ∉ seen := by
  induction rows generalizing seen with
  | nil => simp [distinctFrom]
  | cons first rest ih =>
    rw [distinctFrom]
    by_cases known : first ∈ seen
    · rw [if_pos (by simpa using known), ih]
      constructor
      · rintro ⟨later, fresh⟩
        exact ⟨List.mem_cons_of_mem first later, fresh⟩
      · rintro ⟨mem, fresh⟩
        rcases List.mem_cons.mp mem with rfl | later
        · exact absurd known fresh
        · exact ⟨later, fresh⟩
    · rw [if_neg (by simpa using known), List.mem_cons, ih, List.mem_cons, List.mem_cons]
      by_cases same : row = first
      · subst same
        simpa using known
      · simp [same]

theorem nodup_distinctFrom (seen rows : List Row) : (distinctFrom seen rows).Nodup := by
  induction rows generalizing seen with
  | nil => exact List.nodup_nil
  | cons first rest ih =>
    rw [distinctFrom]
    split
    · exact ih seen
    · refine List.nodup_cons.mpr ⟨fun mem => ?_, ih _⟩
      exact (mem_distinctFrom.mp mem).2 List.mem_cons_self

/-- Without limit and offset a plan gives each row that has a combination. -/
theorem mem_run_unlimited {row : Row} : row ∈ run db (plan.paginate {}) ↔
    row ∈ db.rows plan.entity ∧ 1 ≤ ways db plan row := by
  have whole : (plan.paginate {}).part (sorted db plan) = sorted db plan := List.drop_zero
  have same : run db (plan.paginate {}) =
      distinctFrom [] (((plan.paginate {}).part (sorted db plan)).filterMap JoinedRow.root?) := rfl
  rw [same, whole, mem_distinctFrom, ← mem_roots]
  simp [sorted, List.mem_filterMap]

/-- A plan counts the combinations of the rows that it gives. -/
theorem length_selected_eq (keyed : db.Keyed) :
    (selected db plan).length = ((run db (plan.paginate {})).map (ways db plan)).sum := by
  have given : (run db (plan.paginate {})).Perm
      ((db.rows plan.entity).filter fun row => 1 ≤ ways db plan row) := by
    refine (List.perm_ext_iff_of_nodup (nodup_distinctFrom _ _)
      ((keyed.nodup_rows plan.entity).filter _)).mpr fun row => ?_
    rw [List.mem_filter, decide_eq_true_eq]
    exact mem_run_unlimited
  rw [length_selected, (given.map _).sum_nat]
  generalize db.rows plan.entity = rows
  induction rows with
  | nil => rfl
  | cons row rest ih =>
    by_cases counted : 1 ≤ ways db plan row
    · simp [counted, ih]
    · have zero : ways db plan row = 0 := by omega
      simp [zero, ih]

end Plan

/-- A user with two posts. -/
def authorDatabase : Database :=
  let day : Moment := ⟨63902908800000000, none⟩
  { users :=
      [{ id := ⟨1⟩, fullName := "Ann", email := "ann@x", createdAt := day, updatedAt := day }],
    posts := [
      { id := ⟨1⟩, userId := ⟨1⟩, title := "hello", createdAt := day, updatedAt := day },
      { id := ⟨2⟩, userId := ⟨1⟩, title := "old news", createdAt := day, updatedAt := day }] }

theorem authorDatabase_keyed : authorDatabase.Keyed := by
  intro e
  cases e <;> decide +kernel

end QueryDesk

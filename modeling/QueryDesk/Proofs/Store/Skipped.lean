import QueryDesk.Proofs.Plan.Joins
import QueryDesk.Proofs.Plan.Pruned
import QueryDesk.Proofs.Store.Order
import QueryDesk.Proofs.Store.Ways

/-!
# What skipped tokens do to rows

A token that leads to no column is passed over, but the associations on its way are joined. That is
all it does. Where these associations have one row at most, or are joined anyway, the rows of the
plan and their number are those of the pruned specification.
-/

namespace QueryDesk

namespace Plan

variable {root : Entity} {spec : QuerySpec} {plan plan' : Plan} {db : Database}

/-- What the skipped tokens of a specification join has one row at most, or is joined by other
    tokens too. -/
def SkipsHarmlessly (root : Entity) (spec : QuerySpec) : Prop :=
  ∀ token ∈ specTokens spec, leadsToColumn root token = false →
    ∀ join ∈ (resolve root token).joins, join.association.isToOne = true ∨
      ∃ kept ∈ specTokens spec, leadsToColumn root kept = true ∧ join ∈ (resolve root kept).joins

/-- The pruned specification joins the same, or nothing. -/
theorem joins_pruned_cases (planned : Planned root spec plan)
    (planned' : Planned root (spec.pruned root) plan') (distinct : plan.hasDistinctTables = true) :
    plan'.joins = plan.joins ∨
      (joinsOf root (specTokens (spec.pruned root)) = [] ∧ plan'.joins = []) := by
  refine planned.joins_of_fewer planned' (fun token mem => ?_) distinct
  rw [specTokens_pruned] at mem
  exact List.mem_of_mem_filter mem

theorem hasDistinctTables_pruned (planned : Planned root spec plan)
    (planned' : Planned root (spec.pruned root) plan') (distinct : plan.hasDistinctTables = true) :
    plan'.hasDistinctTables = true := by
  rcases joins_pruned_cases planned planned' distinct with same | ⟨-, none⟩
  · rw [hasDistinctTables, entities, planned'.entity, same, ← planned.entity]
    exact distinct
  · simp [hasDistinctTables, entities, none]

theorem toOne_of_harmless (planned : Planned root spec plan)
    (harmless : SkipsHarmlessly root spec)
    (unjoined : joinsOf root (specTokens (spec.pruned root)) = []) :
    ∀ join ∈ plan.joins, join.association.isToOne = true := by
  have unkept : ∀ kept ∈ specTokens spec, leadsToColumn root kept = true →
      (resolve root kept).joins = [] := by
    intro kept inSpec leads
    rw [specTokens_pruned] at unjoined
    exact List.flatMap_eq_nil_iff.mp unjoined kept (List.mem_filter.mpr ⟨inSpec, leads⟩)
  intro join mem
  rw [planned.joins] at mem
  obtain ⟨token, inSpec, onWay⟩ :=
    mem_joinsOf.mp ((mem_of_mem_addJoins mem).resolve_left List.not_mem_nil)
  by_cases leads : leadsToColumn root token = true
  · rw [unkept token inSpec leads] at onWay
    cases onWay
  · rcases harmless token inSpec (by simpa using leads) join onWay with
      single | ⟨kept, inSpec', leads', onWay'⟩
    · exact single
    · rw [unkept kept inSpec' leads'] at onWay'
      cases onWay'

/-! ## Rows in the same order -/

/-- Sort keys of columns at the end of tokens without joins do not see what is joined. -/
theorem inOrder_seen (planned' : Planned root spec plan')
    (unjoined : joinsOf root (specTokens spec) = []) (entity : plan.entity = root)
    (order : plan.order = plan'.order) (row other : Row) :
    inOrder plan (seen db plan row) (seen db plan other) =
      inOrder plan' (seen db plan' row) (seen db plan' other) := by
  have cells : ∀ r : Row, ∀ key ∈ plan'.order,
      (seen db plan r).cell key.1 = (seen db plan' r).cell key.1 := by
    intro r key sorts
    rw [seen, seen, entity, planned'.entity]
    rw [planned'.order] at sorts
    obtain ⟨clause, inOrder, leads⟩ := exists_clause_of_orderKeys sorts
    have follows : clause.field ∈ specTokens spec :=
      List.mem_append_right _ (List.mem_map_of_mem inOrder)
    exact agree_extended db unjoined plan.joins plan'.joins r _ follows _ leads
  unfold inOrder
  rw [order, compareBy_congr fun key mem => ⟨cells row key mem, cells other key mem⟩]

/-- A plan with one joined row at most to each accepts and orders the rows as without its joins. -/
theorem ordered_of_unjoined (planned : Planned root spec plan)
    (planned' : Planned root (spec.pruned root) plan')
    (unjoined : joinsOf root (specTokens (spec.pruned root)) = [])
    (conditions : plan.conditions = plan'.conditions) (order : plan.order = plan'.order) :
    ordered db plan = ordered db plan' := by
  have accepted : ∀ row, accepts plan (seen db plan row) = accepts plan' (seen db plan' row) := by
    intro row
    have judged : accepts plan (seen db plan row) = accepts plan' (seen db plan row) := by
      rw [accepts, accepts, conditions]
    have agree := (agree_extended db unjoined plan.joins plan'.joins row).mono
      fun token mem => List.mem_append_left _ mem
    rw [judged, Bool.eq_iff_iff, planned'.accepts_iff, planned'.accepts_iff, seen, seen,
      planned.entity, planned'.entity, predicateTruths_congr _ agree]
  have sorted : (fun row other => inOrder plan (seen db plan row) (seen db plan other)) =
      fun row other => inOrder plan' (seen db plan' row) (seen db plan' other) := by
    funext row other
    exact inOrder_seen planned' unjoined planned.entity order row other
  rw [ordered, ordered, met, met, planned.entity, planned'.entity, funext accepted, sorted]

/-! ## Counting and executing -/

theorem fault?_congr (conditions : plan.conditions = plan'.conditions)
    (distinct : plan.hasDistinctTables = plan'.hasDistinctTables) (limit : plan.limit = plan'.limit)
    (offset : plan.offset = plan'.offset) : plan.fault? = plan'.fault? := by
  unfold fault? slots pageFault?
  rw [conditions, distinct, limit, offset]

/-- Plans that differ in joins of one row at most, which nothing looks at, count and give the
    same. -/
theorem results_of_harmless (planned : Planned root spec plan)
    (planned' : Planned root (spec.pruned root) plan')
    (same : plan = { plan' with joins := plan.joins, log := plan.log })
    (harmless : SkipsHarmlessly root spec) (distinct : plan.hasDistinctTables = true)
    (keyed : db.Keyed) :
    (selected db plan).length = (selected db plan').length ∧
      ∀ p, run db (plan.paginate p) = run db (plan'.paginate p) := by
  have conditions : plan.conditions = plan'.conditions := by rw [same]
  have order : plan.order = plan'.order := by rw [same]
  rcases joins_pruned_cases planned planned' distinct with joins | ⟨unjoined, none⟩
  · have entity : plan'.entity = plan.entity := planned'.entity.trans planned.entity.symm
    have accept : ∀ row, accepts plan' row = accepts plan row := by
      intro row
      rw [accepts, accepts, conditions]
    obtain ⟨selected_eq, run_eq⟩ := results_congr db entity joins order.symm accept
    exact ⟨by rw [selected_eq], fun p => (run_eq p).symm⟩
  · have reads := planned.reads_of_toOne distinct (toOne_of_harmless planned harmless unjoined)
    have reads' : Reads plan' root := ⟨planned'.entity, .inl none⟩
    have ordered_eq : ordered db plan = ordered db plan' :=
      ordered_of_unjoined planned planned' unjoined conditions order
    refine ⟨by rw [reads.length_selected keyed, reads'.length_selected keyed, ordered_eq],
      fun p => ?_⟩
    have part_eq : ∀ rows : List Row, part (plan.paginate p) rows = part (plan'.paginate p) rows :=
      fun _ => rfl
    rw [(reads.paginate p).run_eq keyed, (reads'.paginate p).run_eq keyed, ordered_paginate,
      ordered_paginate, ordered_eq, part_eq]

/-- Skipping a token changes nothing of a plan but its joins and its log. While what is joined on
    the way of skipped tokens has one row at most or is joined anyway, and reads no table a second
    time, the rows of every page and their number are those of the specification without the skipped
    entries and sort keys. -/
theorem skipped_without_effect (planned : ofSpec root spec = .ok plan) :
    ∃ plan', ofSpec root (spec.pruned root) = .ok plan' ∧
      plan = { plan' with joins := plan.joins, log := plan.log } ∧
      (SkipsHarmlessly root spec →
        (plan'.hasDistinctTables = true → plan.hasDistinctTables = true) →
        ∀ db : Database, db.Keyed → plan.count db = plan'.count db ∧
          ∀ p, (plan.paginate p).execute db = (plan'.paginate p).execute db) := by
  obtain ⟨plan', pruned, same⟩ := ofSpec_pruned planned
  have means := ofSpec_planned planned
  have means' := ofSpec_planned pruned
  refine ⟨plan', pruned, same, fun harmless distinct_of db keyed => ?_⟩
  have tables : plan.hasDistinctTables = plan'.hasDistinctTables :=
    Bool.eq_iff_iff.mpr ⟨hasDistinctTables_pruned means means', distinct_of⟩
  have conditions : plan.conditions = plan'.conditions := by rw [same]
  have faults : ∀ p, (plan.paginate p).fault? = (plan'.paginate p).fault? :=
    fun p => fault?_congr conditions tables rfl rfl
  have fault : plan.fault? = plan'.fault? :=
    fault?_congr conditions tables (means.limit.trans means'.limit.symm)
      (means.offset.trans means'.offset.symm)
  unfold count execute
  rw [fault]
  constructor
  · split
    · rfl
    · rename_i sound
      have distinct := hasDistinctTables_of_fault? (fault.trans sound)
      rw [(results_of_harmless means means' same harmless distinct keyed).1]
  · intro p
    rw [faults p]
    split
    · rfl
    · rename_i sound
      have distinct : (plan.paginate p).hasDistinctTables = true :=
        hasDistinctTables_of_fault? ((faults p).trans sound)
      rw [(results_of_harmless means means' same harmless distinct keyed).2 p]

/-- Posts of a status, asked about a field that authors do not have. -/
def unknownAuthorField : QuerySpec where
  predicate := [("$user.nickname$", .text "x"), ("status", .text "draft")]

theorem skips_unknown_author_field :
    SkipsHarmlessly .post unknownAuthorField ∧
    ∃ plan plan', ofSpec .post unknownAuthorField = .ok plan ∧
      ofSpec .post (unknownAuthorField.pruned .post) = .ok plan' ∧ plan.joins = [authorJoin] ∧
      plan'.joins = [] ∧ plan.count authorDatabase = plan'.count authorDatabase := by
  have harmless : SkipsHarmlessly .post unknownAuthorField := by
    unfold SkipsHarmlessly
    decide +kernel
  have planning : (ofSpec .post unknownAuthorField).toOption.map
      (fun plan => (plan.joins, plan.hasDistinctTables)) = some ([authorJoin], true) := by
    decide +kernel
  cases planned : ofSpec .post unknownAuthorField with
  | error fault =>
    rw [planned] at planning
    cases planning
  | ok plan =>
    rw [planned] at planning
    obtain ⟨joins, distinct⟩ := Prod.mk.inj (Option.some.inj planning)
    obtain ⟨plan', pruned, -, results⟩ := skipped_without_effect planned
    have unjoined : plan'.joins = [] := by
      rw [(ofSpec_planned pruned).joins]
      decide +kernel
    exact ⟨harmless, plan, plan', rfl, pruned, joins, unjoined,
      (results harmless (fun _ => distinct) authorDatabase authorDatabase_keyed).1⟩

/-- Users, asked about a field that posts do not have. -/
def unknownPostField : QuerySpec where
  predicate := [("$posts.nope$", .text "x")]

/-- A user with two posts is counted twice when asked about a field that posts do not have, and once
    without the entry. -/
theorem unknown_post_field_repeats :
    (ofSpec .user unknownPostField).toOption.map
        (fun plan => (plan.count authorDatabase).toOption) = some (some 2) ∧
      (ofSpec .user (unknownPostField.pruned .user)).toOption.map
        (fun plan => (plan.count authorDatabase).toOption) = some (some 1) := by
  constructor
  · decide +kernel
  · decide +kernel

end Plan

end QueryDesk

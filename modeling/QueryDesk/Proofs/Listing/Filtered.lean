import QueryDesk.Proofs.Listing.Answered
import QueryDesk.Proofs.Plan.Hereditary

/-!
# Requests that filter on one field

A request for all rows that filters on one field of the resource itself, by a single relation, has a
plan with one condition. What the text binds to on the column decides everything: nothing at all
matches no row, and an operand is either refused by the store or compared with the column's cells.
-/

namespace QueryDesk

/-- The parameters that ask for all rows and filter on one field. -/
def filtering (field value : String) : List (String × String) :=
  [(Filter.mark ++ field, value), ("limit", "-1")]

/-- The condition that compares a column with what an operand is bound to. -/
def Condition.comparing (relation : Relation) (column : ColumnRef) : Option Value → Condition
  | none => .never
  | some operand => .compare relation column operand

variable {r : Resource} {db : Database} {field value text : String} {relation : Relation}
  {column : Column} {bound : Option Value}

/-! ## The parameters compile -/

namespace Filter

theorem key_ne (field : String) {key : String} (unmarked : mark.toList.isPrefixOf? key.toList = none) :
    key ≠ mark ++ field := by
  rintro rfl
  rw [String.toList_append, Text.isPrefixOf?_eq_none_iff] at unmarked
  exact unmarked (List.prefix_append _ _)

theorem filters_filtering {config : ResourceConfig} (allowed : field ∈ config.filterFields) :
    filters config (filtering field value) = [(field, value)] := by
  have asked : field? config (mark ++ field) = some field :=
    field?_eq_some_iff.mpr ⟨rfl, allowed⟩
  have spared : field? config "limit" = none := field?_of_reserved (by decide)
  rw [filtering, filters, List.filterMap_cons, asked, List.filterMap_cons, spared]
  rfl

theorem add_leaf {token value : String} {leaf : Value} (single : leafValue? value = some leaf) :
    add token [] (clause value) = .ok [(token, leaf)] := by
  unfold leafValue? at single
  cases said : clause value with
  | group combinator operands =>
    rw [said] at single
    cases single
  | comparison operator operand =>
    rw [said] at single
    cases single
    rfl
  | equality operand =>
    rw [said] at single
    cases single
    rfl

end Filter

theorem param_filtering {key : String}
    (unmarked : Filter.mark.toList.isPrefixOf? key.toList = none) :
    param (Members.texts (filtering field value)) key =
      param (Members.texts [("limit", "-1")]) key := by
  have apart : (key == Filter.mark ++ field) = false := by
    simpa using Filter.key_ne field unmarked
  rw [param_texts, param_texts, filtering, List.lookup_cons, apart]

/-- The request compiles to the one clause that its value says. -/
theorem compiles_filtering (allowed : field ∈ r.config.filterFields) {leaf : Value}
    (single : Filter.leafValue? value = some leaf) :
    Compiles (Members.texts (filtering field value)) r ⟨{}, [], [(r.format field, leaf)]⟩ []
      [(r.format field, leaf)] := by
  refine ⟨?_, ?_, ?_, ?_, rfl⟩
  · rw [param_filtering (by decide), param_filtering (by decide), param_filtering (by decide)]
    rfl
  · rw [param_filtering (by decide)]
    rfl
  · rw [param_filtering (by decide)]
    rfl
  · rw [Filter.predicate, Filter.foldlM_step_texts, Filter.filters_filtering allowed,
      List.foldlM_cons, Filter.add_leaf single]
    rfl

/-! ## The plan of one clause -/

namespace Plan

/-- A text binds to no truth value, so every relation can be asked for. -/
theorem isUnordered_of_bind {kind : ColumnKind} {s : String} {operand : Value}
    (binds : Binding.bind kind (Operand.ofText s) = .ok (some operand)) :
    isUnordered (some operand) = false := by
  have number : ∀ {n : Binding.NumberKind} {cs : List Char}, Binding.readNumber? n cs = some operand →
      isUnordered (some operand) = false := by
    intro n cs read
    unfold Binding.readNumber? at read
    cases n with
    | whole =>
      obtain ⟨m, -, rfl⟩ := Option.map_eq_some_iff.mp read
      rfl
    | double =>
      obtain ⟨x, -, finite⟩ := Option.bind_eq_some_iff.mp read
      split at finite <;> cases finite
      rfl
    | decimal =>
      obtain ⟨d, -, finite⟩ := Option.bind_eq_some_iff.mp read
      split at finite <;> cases finite
      rfl
  rcases ofText_cases s with ⟨n, eq⟩ | ⟨x, eq⟩ | eq
  · rw [eq] at binds
    cases kind with
    | text =>
      unfold Binding.bind at binds
      dsimp only at binds
      generalize intText? n = digits? at binds
      cases digits? <;> cases binds
      rfl
    | _ =>
      cases binds
      rfl
  · rw [eq] at binds
    cases kind <;> cases binds <;> rfl
  · rw [eq] at binds
    cases kind with
    | whole | decimal => exact number (Except.ok.inj binds)
    | uuid =>
      obtain ⟨u, -, rfl⟩ := Option.map_eq_some_iff.mp (Except.ok.inj binds)
      rfl
    | _ =>
      cases binds
      rfl

theorem comparison_of_bind {relation : Relation} {column : ColumnRef} {s : String}
    {operand : Value} (binds : Binding.bind column.column.kind (Operand.ofText s) =
      .ok (some operand)) :
    comparison relation column (some operand) = .ok (.compare relation column operand) := by
  have ordered := isUnordered_of_bind binds
  cases relation with
  | eq | ne => rfl
  | _ => simp [comparison, ordered]

theorem equalityCondition_of_bind {column : ColumnRef} {s : String}
    (binds : Binding.bind column.column.kind (Operand.ofText s) = .ok bound) (w : Walk) :
    (equalityCondition column (Operand.ofText s)).run w =
      .ok (Condition.comparing .eq column bound, w) := by
  unfold equalityCondition
  rw [isNull_ofText, binds]
  cases bound <;> rfl

theorem operatorCondition_of_bind {column : ColumnRef} {s : String} {relation : Relation}
    (ne : relation ≠ .eq)
    (binds : Binding.bind column.column.kind (Operand.ofText s) = .ok bound) (w : Walk) :
    (operatorCondition column (Filter.operatorOf relation) (Operand.ofText s)).run w =
      .ok (some (Condition.comparing relation column bound), w) := by
  unfold operatorCondition
  rw [if_neg (operatorOf_ne_pattern relation), isNull_ofText, binds, relationOf?_operatorOf ne]
  cases bound with
  | none => rfl
  | some operand =>
    have compared : comparison relation column (some operand) =
        .ok (.compare relation column operand) := comparison_of_bind binds
    change ((do return some (← comparison relation column (some operand))) :
      Planning (Option Condition)).run w = _
    rw [compared]
    rfl

/-- What a text stands for is no group and no object, so that it is to be equalled. -/
theorem entryConditions_ofText {e : Entity} {token : String}
    (single : Combinator.ofKey? token = none) (s : String) :
    entryConditions e token (Operand.ofText s) =
      leaf e token fun column => return [← equalityCondition column (Operand.ofText s)] := by
  rcases ofText_cases s with ⟨n, same⟩ | ⟨x, same⟩ | same <;>
    simp only [same, entryConditions, single]

/-- A clause on a column becomes one condition, and the way to the column is joined. -/
theorem entryConditions_clause {e : Entity} {token : String} {joins : List Join} {c : ColumnRef}
    (resolves : resolve e token = ⟨joins, some c⟩) (single : Combinator.ofKey? token = none)
    (binds : Binding.bind c.column.kind (Operand.ofText text) = .ok bound) :
    (entryConditions e token (if relation = .eq then Operand.ofText text
      else .object [(Filter.operatorOf relation, Operand.ofText text)])).run {} =
    .ok ([Condition.comparing relation c bound], { joins := addJoins [] joins }) := by
  split
  · rename_i eq
    rw [entryConditions_ofText single, leaf_of_resolves resolves, StateT.run_bind,
      equalityCondition_of_bind binds, eq]
    rfl
  · rename_i ne
    rw [entryConditions, single, leaf_of_resolves resolves]
    simp only [operatorConditions]
    rw [StateT.run_bind, operatorCondition_of_bind ne binds]
    rfl

theorem ofSpec_clause {e : Entity} {token : String} {joins : List Join} {c : ColumnRef}
    (resolves : resolve e token = ⟨joins, some c⟩) (single : Combinator.ofKey? token = none)
    (binds : Binding.bind c.column.kind (Operand.ofText text) = .ok bound) (page : Pagination) :
    ofSpec e ⟨page, [], [(token, if relation = .eq then Operand.ofText text
      else .object [(Filter.operatorOf relation, Operand.ofText text)])]⟩ =
    .ok { entity := e, joins := addJoins [] joins,
          conditions := [Condition.comparing relation c bound] } := by
  simp only [ofSpec, predicateConditions, orderColumns]
  rw [StateT.run_bind, StateT.run_bind, entryConditions_clause resolves single binds]
  rfl

/-! ## What the plan of one condition gives -/

/-- The plan of one comparison on a column of the entity itself. -/
def comparing (e : Entity) (relation : Relation) (column : Column) (bound : Option Value) : Plan :=
  { entity := e, conditions := [Condition.comparing relation ⟨e, column⟩ bound] }

theorem fault?_comparing_none (e : Entity) (relation : Relation) (column : Column) :
    (comparing e relation column none).fault? = none := by
  cases e <;> rfl

/-- An operand that has a form for the column brings its own fault to the plan, and no other. -/
theorem fault?_comparing {e : Entity} {operand : Value}
    (bindable : (Operand.Slot.operand ⟨e, column⟩ operand).isBindable = true) :
    (comparing e relation column (some operand)).fault? =
      (Operand.Slot.operand ⟨e, column⟩ operand).fault? := by
  have slots : (comparing e relation column (some operand)).slots = [.operand ⟨e, column⟩ operand] :=
    rfl
  have distinct : (comparing e relation column (some operand)).hasDistinctTables = true := by
    cases e <;> rfl
  have no_page : (comparing e relation column (some operand)).pageFault? = none := rfl
  rw [fault?, slots, distinct, no_page, List.all_cons, bindable, List.findSome?_cons]
  cases (Operand.Slot.operand ⟨e, column⟩ operand).fault? <;> rfl

theorem mem_ordered_comparing {e : Entity} {row : Row} :
    row ∈ ordered db (comparing e relation column bound) ↔ row ∈ db.rows e ∧
      ∃ operand, bound = some operand ∧
        Condition.compareTruth relation column.kind (row.cell column.name) operand = some true := by
  have cell : (seen db (comparing e relation column bound) row).cell ⟨e, column⟩ =
      row.cell column.name := by
    cases e <;> rfl
  have accepted : accepts (comparing e relation column bound)
        (seen db (comparing e relation column bound) row) = true ↔
      (Condition.comparing relation ⟨e, column⟩ bound).truth
        (seen db (comparing e relation column bound) row) = some true := by
    rw [accepts, beq_iff_eq, Condition.groupTruth_eq]
    exact iff_of_eq (congrArg (· = some true) (Truth.joined_singleton .all _))
  rw [mem_ordered, accepted]
  refine and_congr_right fun _ => ?_
  cases bound with
  | none => simp [Condition.comparing, Condition.truth]
  | some operand => simp [Condition.comparing, Condition.truth, cell]

end Plan

/-! ## The answer -/

/-- A value asks for a relation between a column of the resource itself and a text. -/
structure FiltersOn (r : Resource) (column : Column) (field value : String) (relation : Relation)
    (text : String) : Prop where
  allowed : field ∈ r.config.filterFields
  resolves : resolve r.entity (r.format field) = ⟨[], some ⟨r.entity, column⟩⟩
  single : Combinator.ofKey? (r.format field) = none
  noPercent : '%' ∉ value.toList
  noBar : '|' ∉ value.toList
  reading : Filter.Says value relation text

namespace FiltersOn

/-- The request compiles to the clause that its value says, which is planned as one condition. -/
theorem planned (filters : FiltersOn r column field value relation text)
    (binds : Binding.bind column.kind (Operand.ofText text) = .ok bound) :
    ∃ spec search collected, Compiles (Members.texts (filtering field value)) r spec search collected ∧
      spec.pagination = {} ∧
      Plan.ofSpec r.entity spec = .ok (Plan.comparing r.entity relation column bound) :=
  ⟨_, _, _, compiles_filtering filters.allowed
    (Plan.leafValue?_of_saying filters.noPercent filters.noBar filters.reading), rfl,
    Plan.ofSpec_clause filters.resolves filters.single binds {}⟩

/-- An operand that the store does not take is refused. -/
theorem refused (filters : FiltersOn r column field value relation text) {operand : Value}
    (binds : Binding.bind column.kind (Operand.ofText text) = .ok (some operand))
    (bindable : (Operand.Slot.operand ⟨r.entity, column⟩ operand).isBindable = true)
    {fault : StoreFault}
    (faulty : (Operand.Slot.operand ⟨r.entity, column⟩ operand).fault? = some fault) :
    r.list db (Members.texts (filtering field value)) = .error (.store fault) := by
  obtain ⟨spec, search, collected, compiles, -, planned⟩ := filters.planned binds
  rw [list_of_compiles compiles]
  exact listSpec_of_fault planned ((Plan.fault?_comparing bindable).trans faulty)

/-- Otherwise the request is answered with all rows whose cell stands in the relation to the
    operand, each once. -/
theorem answered (filters : FiltersOn r column field value relation text) (keyed : db.Keyed)
    (binds : Binding.bind column.kind (Operand.ofText text) = .ok bound)
    (taken : ∀ operand, bound = some operand →
      (Operand.Slot.operand ⟨r.entity, column⟩ operand).isBindable = true ∧
        (Operand.Slot.operand ⟨r.entity, column⟩ operand).fault? = none) :
    ∃ listing, r.list db (Members.texts (filtering field value)) = .ok listing ∧
      listing.items.Nodup ∧ ∀ row, row ∈ listing.items ↔ row ∈ db.rows r.entity ∧
        ∃ operand, bound = some operand ∧ Condition.compareTruth relation column.kind
          (row.cell column.name) operand = some true := by
  obtain ⟨spec, search, collected, compiles, unlimited, planned⟩ := filters.planned binds
  have counts : (Plan.comparing r.entity relation column bound).fault? = none := by
    cases bound with
    | none => exact Plan.fault?_comparing_none r.entity relation column
    | some operand =>
      obtain ⟨bindable, sound⟩ := taken operand rfl
      exact (Plan.fault?_comparing bindable).trans sound
  have reads : Plan.Reads (Plan.comparing r.entity relation column bound) r.entity :=
    ⟨rfl, .inl rfl⟩
  have runs : Runs r db spec (Plan.comparing r.entity relation column bound) _ :=
    ⟨planned, counts, Plan.fault?_paginate counts (by rw [unlimited]; rfl), rfl⟩
  have items : ((Plan.comparing r.entity relation column bound).paginate spec.pagination).run db =
      (Plan.comparing r.entity relation column bound).ordered db := by
    rw [unlimited, reads.run_unlimited keyed]
  refine ⟨_, list_eq_ok_iff.mpr ⟨spec, search, collected, _, compiles, runs⟩, ?_, fun row => ?_⟩
  · rw [items]
    exact Plan.nodup_ordered keyed
  · rw [items, Plan.mem_ordered_comparing]

end FiltersOn

theorem mem_rows_post {row : Row} : row ∈ db.rows .post ↔ ∃ p ∈ db.posts, row = .post p := by
  simp [Database.rows, eq_comm]

end QueryDesk

import QueryDesk.Proofs.Plan.Planned

/-!
# Leaving out what leads to no column

A specification can be pruned: entries and sort keys whose token leads to no column are removed, at
any depth. Planning the pruned specification gives the same conditions and sort keys. What it may
not give are joins on the ways of the removed tokens.
-/

namespace QueryDesk

open Plan

/-- The token leads to a column. -/
def leadsToColumn (root : Entity) (token : String) : Bool :=
  (resolve root token).column?.isSome

mutual

/-- The value of an entry; the clauses of a group are pruned. -/
def prunedValue (root : Entity) (key : String) : Value → Value
  | .list items =>
    if (Combinator.ofKey? key).isSome then .list (prunedClauses root items) else .list items
  | .tuple items =>
    if (Combinator.ofKey? key).isSome then .tuple (prunedClauses root items) else .tuple items
  | value => value

/-- Clauses with the entries that lead to a column. -/
def prunedClauses (root : Entity) : List Value → List Value
  | [] => []
  | .object members :: rest => .object (prunedMembers root members) :: prunedClauses root rest
  | value :: rest => value :: prunedClauses root rest

/-- The groups of a predicate, pruned, and its entries that lead to a column. -/
def prunedMembers (root : Entity) : List (String × Value) → List (String × Value)
  | [] => []
  | (key, value) :: rest =>
    if (Combinator.ofKey? key).isNone && !leadsToColumn root key then prunedMembers root rest
    else (key, prunedValue root key value) :: prunedMembers root rest

end

/-- The specification without the entries and sort keys that lead to no column. -/
def QuerySpec.pruned (root : Entity) (spec : QuerySpec) : QuerySpec where
  pagination := spec.pagination
  order := spec.order.filter (leadsToColumn root ·.field)
  predicate := prunedMembers root spec.predicate

namespace Plan

/-! ## Steps with the same result -/

/-- What two steps of planning give is the same, whatever was collected before. -/
def Same {α : Type} (step other : Planning α) : Prop :=
  ∀ w w', (step.run w).map Prod.fst = (other.run w').map Prod.fst

variable {α β : Type} {root : Entity}

theorem Same.symm {step other : Planning α} (same : Same step other) : Same other step :=
  fun w w' => (same w' w).symm

theorem Same.trans {step other third : Planning α} (same : Same step other)
    (same' : Same other third) : Same step third :=
  fun w w' => (same w w').trans (same' w' w')

theorem Same.pure (a : α) : Same (Pure.pure a : Planning α) (Pure.pure a) :=
  fun _ _ => rfl

theorem Same.throw (fault : PlanFault) :
    Same (MonadExcept.throw fault : Planning α) (MonadExcept.throw fault) :=
  fun _ _ => rfl

theorem Same.lift (result : Except PlanFault α) :
    Same (liftM result : Planning α) (liftM result) := by
  intro w w'
  cases result <;> rfl

theorem Same.note (line : LogLine) : Same (note line) (note line) :=
  fun _ _ => rfl

/-- Following a token gives its column, whatever is joined on the way. -/
theorem Same.visit (root : Entity) (token : String) :
    Same (visit root token) (Pure.pure (resolve root token).column? : Planning _) :=
  fun _ _ => rfl

theorem Same.bind {step other : Planning α} {next next' : α → Planning β}
    (same : Same step other) (onward : ∀ a, Same (next a) (next' a)) :
    Same (step >>= next) (other >>= next') := by
  intro w w'
  have first := same w w'
  rw [StateT.run_bind, StateT.run_bind]
  cases ran : step.run w with
  | error fault =>
    cases ran' : other.run w' with
    | error fault' =>
      rw [ran, ran'] at first
      cases first
      rfl
    | ok result =>
      rw [ran, ran'] at first
      cases first
  | ok result =>
    cases ran' : other.run w' with
    | error fault' =>
      rw [ran, ran'] at first
      cases first
    | ok result' =>
      rw [ran, ran'] at first
      obtain ⟨a, v⟩ := result
      obtain ⟨b, v'⟩ := result'
      obtain rfl : a = b := Except.ok.inj first
      exact onward a v v'

/-! ## Planning what is pruned -/

theorem operatorCondition_same (column : ColumnRef) (operator : String) (operand : Value) :
    Same (operatorCondition column operator operand)
      (operatorCondition column operator operand) := by
  unfold operatorCondition
  split
  · split
    · exact .pure _
    · exact .throw _
  · refine (Same.lift _).bind fun bound => ?_
    split
    · exact .pure _
    · split
      · exact (Same.lift _).bind fun condition => .pure _
      · exact (Same.note _).bind fun _ => .pure _

theorem operatorConditions_same (column : ColumnRef) (members : Members) :
    Same (operatorConditions column members) (operatorConditions column members) := by
  induction members with
  | nil => exact .pure _
  | cons member rest ih =>
    exact (operatorCondition_same column member.1 member.2).bind fun first =>
      ih.bind fun others => .pure _

theorem equalityCondition_same (column : ColumnRef) (value : Value) :
    Same (equalityCondition column value) (equalityCondition column value) := by
  unfold equalityCondition
  split
  · exact .pure _
  · refine (Same.lift _).bind fun bound => ?_
    split <;> exact .pure _

theorem leaf_same {token : String} {demand : ColumnRef → Planning (List Condition)}
    (same : ∀ column, Same (demand column) (demand column)) :
    Same (leaf root token demand) (leaf root token demand) := by
  have visited := Same.visit root token
  refine (visited.trans visited.symm).bind fun column? => ?_
  split
  · exact (Same.note _).bind fun _ => .pure _
  · exact same _

theorem equality_leaf_same (token : String) (value : Value) :
    Same (leaf root token fun column => return [← equalityCondition column value])
      (leaf root token fun column => return [← equalityCondition column value]) :=
  leaf_same fun column => (equalityCondition_same column value).bind fun _ => .pure _

theorem refusal_same (present : Bool) :
    Same (if present = true then throw .groupNotList else pure [] : Planning (List Condition))
      (if present = true then throw .groupNotList else pure []) := by
  cases present with
  | true => exact .throw _
  | false => exact .pure _

/-- A leaf whose token leads to no column demands nothing. -/
theorem leaf_skipped {token : String} (demand : ColumnRef → Planning (List Condition))
    (astray : leadsToColumn root token = false) :
    Same (leaf root token demand) (pure [] : Planning (List Condition)) := by
  intro w w'
  have none : (resolve root token).column? = none := by
    simpa [leadsToColumn] using astray
  have visited := Same.visit root token w w
  rw [none] at visited
  unfold leaf
  rw [StateT.run_bind]
  cases ran : (visit root token).run w with
  | error fault =>
    rw [ran] at visited
    cases visited
  | ok result =>
    obtain ⟨column?, w'⟩ := result
    rw [ran] at visited
    obtain rfl : column? = Option.none := Except.ok.inj visited
    rfl

theorem entry_skipped {key : String} (single : Combinator.ofKey? key = none)
    (astray : leadsToColumn root key = false) (value : Value) :
    Same (entryConditions root key value) (pure [] : Planning (List Condition)) := by
  cases value <;> simp only [entryConditions, single] <;> exact leaf_skipped _ astray

mutual

theorem entry_pruned (root : Entity) (key : String) (value : Value) :
    Same (entryConditions root key (prunedValue root key value))
      (entryConditions root key value) := by
  cases value with
  | list items =>
    cases grouped : Combinator.ofKey? key with
    | some combinator =>
      simp only [prunedValue, entryConditions, grouped, Option.isSome_some, if_true]
      exact (clause_pruned root items).bind fun clauses => .pure _
    | none =>
      simp only [prunedValue, entryConditions, grouped, Option.isSome_none,
        if_neg Bool.false_ne_true]
      exact equality_leaf_same key (.list items)
  | tuple items =>
    cases grouped : Combinator.ofKey? key with
    | some combinator =>
      simp only [prunedValue, entryConditions, grouped, Option.isSome_some, if_true]
      exact (clause_pruned root items).bind fun clauses => .pure _
    | none =>
      simp only [prunedValue, entryConditions, grouped, Option.isSome_none,
        if_neg Bool.false_ne_true]
      exact equality_leaf_same key (.tuple items)
  | object members =>
    cases grouped : Combinator.ofKey? key with
    | some combinator =>
      simp only [prunedValue, entryConditions, grouped]
      exact .pure _
    | none =>
      simp only [prunedValue, entryConditions, grouped]
      exact leaf_same fun column => operatorConditions_same column members
  | text s =>
    cases grouped : Combinator.ofKey? key with
    | some combinator =>
      simp only [prunedValue, entryConditions, grouped]
      exact .pure _
    | none =>
      simp only [prunedValue, entryConditions, grouped]
      exact equality_leaf_same key (.text s)
  | _ =>
    cases grouped : Combinator.ofKey? key with
    | some combinator =>
      simp only [prunedValue, entryConditions, grouped]
      exact refusal_same _
    | none =>
      simp only [prunedValue, entryConditions, grouped]
      exact equality_leaf_same key _

theorem clause_pruned (root : Entity) (items : List Value) :
    Same (clauseConditions root (prunedClauses root items)) (clauseConditions root items) := by
  cases items with
  | nil => exact .pure _
  | cons item rest =>
    cases item with
    | object members =>
      simp only [prunedClauses, clauseConditions]
      exact (predicate_pruned root members).bind fun own =>
        (clause_pruned root rest).bind fun others => .pure _
    | _ =>
      simp only [prunedClauses, clauseConditions]
      exact clause_pruned root rest

/-- A pruned predicate makes the same conditions. -/
theorem predicate_pruned (root : Entity) (members : List (String × Value)) :
    Same (predicateConditions root (prunedMembers root members))
      (predicateConditions root members) := by
  cases members with
  | nil => exact .pure _
  | cons member rest =>
    obtain ⟨key, value⟩ := member
    have later := predicate_pruned root rest
    rw [prunedMembers, predicateConditions]
    split
    · rename_i astray
      rw [Bool.and_eq_true, Bool.not_eq_true', Option.isNone_iff_eq_none] at astray
      have nothing : predicateConditions root (prunedMembers root rest) =
          (do
            let own ← (Pure.pure [] : Planning (List Condition))
            let others ← predicateConditions root (prunedMembers root rest)
            return own ++ others) := by
        simp
      rw [nothing]
      exact (entry_skipped astray.1 astray.2 value).symm.bind fun own =>
        later.bind fun others => .pure _
    · rw [predicateConditions]
      exact (entry_pruned root key value).bind fun own => later.bind fun others => .pure _

end

/-- Pruned sort keys lead to the same columns. -/
theorem order_pruned (root : Entity) (order : List OrderClause) :
    Same (orderColumns root (order.filter (leadsToColumn root ·.field)))
      (orderColumns root order) := by
  induction order with
  | nil => exact .pure _
  | cons clause rest ih =>
    have visited := Same.visit root clause.field
    rw [List.filter_cons, orderColumns]
    split
    · rw [orderColumns]
      exact (visited.trans visited.symm).bind fun column => ih.bind fun others => .pure _
    · rename_i astray
      have none : (resolve root clause.field).column? = none := by
        simpa [leadsToColumn] using astray
      rw [none] at visited
      have nothing : orderColumns root (rest.filter (leadsToColumn root ·.field)) =
          (do
            let column ← (Pure.pure Option.none : Planning (Option ColumnRef))
            let others ← orderColumns root (rest.filter (leadsToColumn root ·.field))
            return (column.map (·, clause.direction)).toList ++ others) := by
        simp
      rw [nothing]
      exact visited.symm.bind fun column => ih.bind fun others => .pure _

/-- The plan of a specification is that of the pruned one, but for its joins and its log. -/
theorem ofSpec_pruned {spec : QuerySpec} {plan : Plan} (planned : ofSpec root spec = .ok plan) :
    ∃ plan', ofSpec root (spec.pruned root) = .ok plan' ∧
      plan = { plan' with joins := plan.joins, log := plan.log } := by
  have same : Same (steps root (spec.pruned root)) (steps root spec) :=
    (predicate_pruned root spec.predicate).bind fun conditions =>
      (order_pruned root spec.order).bind fun order => .pure _
  have results := same {} {}
  obtain ⟨found, walk, ran, rfl⟩ := ofSpec_eq_ok_iff.mp planned
  cases ran' : (steps root (spec.pruned root)).run {} with
  | error fault =>
    rw [ran, ran'] at results
    cases results
  | ok result =>
    rw [ran, ran'] at results
    obtain rfl : result.1 = found := Except.ok.inj results
    exact ⟨_, ofSpec_eq_ok_iff.mpr ⟨result.1, result.2, ran', rfl⟩, rfl⟩

/-! ## Tokens that are kept -/

mutual

theorem clauseTokens_pruned (root : Entity) (items : List Value) :
    clauseTokens (prunedClauses root items) =
      (clauseTokens items).filter (leadsToColumn root) := by
  cases items with
  | nil => rfl
  | cons item rest =>
    cases item with
    | object members =>
      rw [prunedClauses, clauseTokens, clauseTokens, List.filter_append,
        predicateTokens_pruned root members, clauseTokens_pruned root rest]
    | _ =>
      simp only [prunedClauses, clauseTokens]
      exact clauseTokens_pruned root rest

theorem predicateTokens_pruned (root : Entity) (members : List (String × Value)) :
    predicateTokens (prunedMembers root members) =
      (predicateTokens members).filter (leadsToColumn root) := by
  cases members with
  | nil => rfl
  | cons member rest =>
    obtain ⟨key, value⟩ := member
    have later := predicateTokens_pruned root rest
    rw [prunedMembers, predicateTokens, List.filter_append, ← later]
    cases grouped : Combinator.ofKey? key with
    | none =>
      rw [entryTokens_of_single grouped]
      by_cases leads : leadsToColumn root key = true
      · simp [leads, predicateTokens, entryTokens_of_single grouped]
      · simp [leads]
    | some combinator =>
      simp only [Option.isNone_some, Bool.false_and, if_neg Bool.false_ne_true, predicateTokens]
      congr 1
      cases value with
      | list items =>
        simp only [prunedValue, entryTokens, grouped, Option.isSome_some, if_true]
        exact clauseTokens_pruned root items
      | tuple items =>
        simp only [prunedValue, entryTokens, grouped, Option.isSome_some, if_true]
        exact clauseTokens_pruned root items
      | _ => simp [prunedValue, entryTokens, grouped]

end

/-- A pruned specification follows the tokens that lead to a column. -/
theorem specTokens_pruned (root : Entity) (spec : QuerySpec) :
    specTokens (spec.pruned root) = (specTokens spec).filter (leadsToColumn root) := by
  rw [specTokens, specTokens, List.filter_append, List.filter_map, QuerySpec.pruned,
    predicateTokens_pruned]
  rfl

end Plan

end QueryDesk

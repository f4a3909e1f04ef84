import QueryDesk.Proofs.Plan.Truth

/-!
# What plans mean

The tokens that planning a predicate follows, and the truths that its conditions have on a row, are
read off the predicate itself. `predicate_ensures` proves both for every predicate that can be
planned: joins come from the tokens, and the conditions have the truths.
-/

namespace QueryDesk.Plan

open Condition

/-! ## Steps of planning -/

/-- The joins on the ways of tokens. -/
def joinsOf (root : Entity) (tokens : List String) : List Join :=
  tokens.flatMap fun token => (resolve root token).joins

/-- When a step of planning comes through, it has added the joins of the tokens, and what it gives
    has the property. -/
def Ensures {α : Type} (root : Entity) (tokens : List String) (property : α → Prop)
    (step : Planning α) : Prop :=
  ∀ w a w', step.run w = .ok (a, w') →
    w'.joins = addJoins w.joins (joinsOf root tokens) ∧ property a

theorem addJoins_append (joined more others : List Join) :
    addJoins joined (more ++ others) = addJoins (addJoins joined more) others :=
  List.foldl_append

theorem joinsOf_append (root : Entity) (tokens others : List String) :
    joinsOf root (tokens ++ others) = joinsOf root tokens ++ joinsOf root others :=
  List.flatMap_append

variable {α β : Type} {root : Entity}

theorem Ensures.pure {property : α → Prop} {a : α} (holds : property a) :
    Ensures root [] property (Pure.pure a : Planning α) := by
  intro w b w' run
  cases run
  exact ⟨rfl, holds⟩

theorem Ensures.mono {tokens : List String} {first second : α → Prop} {step : Planning α}
    (ensures : Ensures root tokens first step) (weaker : ∀ a, first a → second a) :
    Ensures root tokens second step := by
  intro w a w' run
  obtain ⟨joined, holds⟩ := ensures w a w' run
  exact ⟨joined, weaker a holds⟩

theorem Ensures.bind {tokens others : List String} {first : α → Prop} {second : β → Prop}
    {step : Planning α} {next : α → Planning β} (ensures : Ensures root tokens first step)
    (onward : ∀ a, first a → Ensures root others second (next a)) :
    Ensures root (tokens ++ others) second (step >>= next) := by
  intro w b w'' run
  rw [StateT.run_bind] at run
  cases ran : step.run w with
  | error fault =>
    rw [ran] at run
    cases run
  | ok result =>
    obtain ⟨a, w'⟩ := result
    rw [ran] at run
    obtain ⟨joined, holds⟩ := ensures w a w' ran
    obtain ⟨joined', holds'⟩ := onward a holds w' b w'' run
    exact ⟨by rw [joined', joined, joinsOf_append, addJoins_append], holds'⟩

theorem Ensures.map {tokens : List String} {first : α → Prop} {second : β → Prop}
    {step : Planning α} {f : α → β} (ensures : Ensures root tokens first step)
    (onward : ∀ a, first a → second (f a)) :
    Ensures root tokens second (step >>= fun a => Pure.pure (f a)) := by
  have both : Ensures root (tokens ++ []) second (step >>= fun a => Pure.pure (f a)) :=
    ensures.bind fun a holds => .pure (onward a holds)
  rwa [List.append_nil] at both

theorem Ensures.then {tokens : List String} {first : α → Prop} {second : β → Prop}
    {step : Planning α} {next : α → Planning β} (ensures : Ensures root [] first step)
    (onward : ∀ a, first a → Ensures root tokens second (next a)) :
    Ensures root tokens second (step >>= next) :=
  ensures.bind onward

theorem Ensures.throw {tokens : List String} {property : α → Prop} (fault : PlanFault) :
    Ensures root tokens property (MonadExcept.throw fault : Planning α) := by
  intro w a w' run
  cases run

theorem Ensures.lift (result : Except PlanFault α) :
    Ensures root [] (result = .ok ·) (liftM result : Planning α) := by
  intro w a w' run
  cases result with
  | error fault => cases run
  | ok b =>
    cases run
    exact ⟨rfl, rfl⟩

theorem Ensures.note (line : LogLine) : Ensures root [] (fun _ => True) (note line) := by
  intro w a w' run
  cases run
  exact ⟨rfl, trivial⟩

theorem Ensures.visit (token : String) :
    Ensures root [token] (· = (resolve root token).column?) (visit root token) := by
  intro w a w' run
  cases run
  exact ⟨by simp [joinsOf], rfl⟩

theorem Ensures.leaf {token : String} {property : List Condition → Prop}
    {demand : ColumnRef → Planning (List Condition)}
    (none : (resolve root token).column? = none → property [])
    (some : ∀ column, (resolve root token).column? = some column →
      Ensures root [] property (demand column)) :
    Ensures root [token] property (leaf root token demand) := by
  have visited : Ensures root ([token] ++ []) property (Plan.leaf root token demand) := by
    refine (Ensures.visit token).bind fun column? leads => ?_
    cases column? with
    | none => exact (Ensures.note _).then fun _ _ => .pure (none leads.symm)
    | some column => exact some column leads.symm
  exact visited

theorem Ensures.refusal {property : List Condition → Prop} (none : property []) (present : Bool) :
    Ensures root [] property (if present = true then MonadExcept.throw .groupNotList
      else Pure.pure [] : Planning (List Condition)) := by
  cases present with
  | true => exact Ensures.throw _
  | false => exact Ensures.pure none

/-! ## Truths of demands -/

/-- The truth of a relation between the cell of a column and a value. A value that binds to nothing
    stands in no relation. -/
def relationTruth (relation : Relation) (column : ColumnRef) (cell : Cell) (v : Value) : Truth :=
  match Binding.bind column.column.kind v with
  | .ok (some operand) => compareTruth relation column.column.kind cell operand
  | _ => some false

/-- The truth of equality, which for null asks whether the cell is null. -/
def equalityTruth (column : ColumnRef) (cell : Cell) (v : Value) : Truth :=
  if v.isNull then some (cell == .null) else relationTruth .eq column cell v

/-- The truth of an operator, if it is known. -/
def operatorTruth? (column : ColumnRef) (cell : Cell) (operator : String) (operand : Value) :
    Option Truth :=
  if operator = Search.patternKey then
    operand.text?.map fun pattern => likeTruth pattern cell
  else match Binding.bind column.column.kind operand with
    | .ok none =>
      if operand.isNull then
        if relationOf? operator = some .ne then some (some (cell != .null)) else none
      else some (some false)
    | .ok (some v) =>
      (relationOf? operator).map fun relation =>
        compareTruth relation column.column.kind cell v
    | .error _ => some (some false)

/-- The truths of operators. -/
def operatorTruths (column : ColumnRef) (cell : Cell) (members : Members) : List Truth :=
  members.filterMap fun member => operatorTruth? column cell member.1 member.2

theorem comparison_eq {relation : Relation} {column : ColumnRef} {operand : Value}
    {condition : Condition} (compared : comparison relation column (some operand) = .ok condition) :
    condition = .compare relation column operand := by
  cases relation with
  | eq | ne => exact (Except.ok.inj compared).symm
  | _ =>
    simp only [comparison] at compared
    split at compared
    · cases compared
    · exact (Except.ok.inj compared).symm

theorem comparison_truth {relation : Relation} {column : ColumnRef} {operand : Value}
    {condition : Condition} (compared : comparison relation column (some operand) = .ok condition)
    (row : JoinedRow) : truth row condition =
      compareTruth relation column.column.kind (row.cell column) operand := by
  rw [comparison_eq compared, truth]

/-- `eq` is the relation of no operator, so null can only be asked for by its opposite. -/
theorem relationOf?_ne_eq (operator : String) : relationOf? operator ≠ some .eq := by
  simp only [relationOf?, List.lookup_cons, List.lookup_nil]
  repeat' split
  all_goals simp

/-- What an operator demands has the truth of the operator. -/
theorem operatorCondition_ensures (column : ColumnRef) (operator : String) (operand : Value) :
    Ensures root [] (fun found => ∀ row : JoinedRow, found.map (truth row) =
      operatorTruth? column (row.cell column) operator operand)
      (operatorCondition column operator operand) := by
  unfold operatorCondition operatorTruth?
  split
  · cases text : operand.text? with
    | none => exact Ensures.throw _
    | some pattern => exact Ensures.pure fun row => by simp [truth]
  · refine (Ensures.lift _).then fun bound binds => ?_
    rw [binds]
    cases bound with
    | none =>
      cases null : operand.isNull with
      | false => exact Ensures.pure fun row => by simp [truth]
      | true =>
        cases known : relationOf? operator with
        | none => exact (Ensures.note _).then fun _ _ => .pure fun row => by simp
        | some relation =>
          refine (Ensures.lift _).then fun condition compared => .pure fun row => ?_
          cases relation with
          | eq => exact absurd known (relationOf?_ne_eq operator)
          | ne =>
            cases compared
            simp [truth]
          | _ => simp [comparison, isUnordered] at compared
    | some v =>
      cases known : relationOf? operator with
      | none => exact (Ensures.note _).then fun _ _ => .pure fun row => by simp
      | some relation =>
        refine (Ensures.lift _).then fun condition compared => .pure fun row => ?_
        simp [comparison_truth compared]

theorem operatorConditions_ensures (column : ColumnRef) (members : Members) :
    Ensures root [] (fun found => ∀ row : JoinedRow, found.map (truth row) =
      operatorTruths column (row.cell column) members) (operatorConditions column members) := by
  induction members with
  | nil => exact Ensures.pure fun row => rfl
  | cons member rest ih =>
    obtain ⟨operator, operand⟩ := member
    refine (operatorCondition_ensures column operator operand).then fun first own => ?_
    refine ih.then fun others demands => .pure fun row => ?_
    have own := own row
    rw [List.map_append, demands row, operatorTruths, operatorTruths, List.filterMap_cons, ← own]
    cases first <;> rfl

theorem equalityCondition_ensures (column : ColumnRef) (v : Value) :
    Ensures root [] (fun condition => ∀ row : JoinedRow,
      truth row condition = equalityTruth column (row.cell column) v)
      (equalityCondition column v) := by
  unfold equalityCondition equalityTruth relationTruth
  split
  · exact Ensures.pure fun row => by rw [truth]
  · refine (Ensures.lift _).then fun bound binds => ?_
    rw [binds]
    cases bound with
    | none => exact Ensures.pure fun row => by rw [truth]
    | some operand => exact Ensures.pure fun row => by rw [truth]

/-! ## Tokens and truths of predicates -/

/-- The truths at the end of a token; a token that leads to no column has none. -/
def leafTruths (root : Entity) (token : String) (demand : ColumnRef → List Truth) : List Truth :=
  ((resolve root token).column?).elim [] demand

theorem leaf_ensures (truths : ColumnRef → Cell → List Truth) {token : String}
    {demand : ColumnRef → Planning (List Condition)}
    (ensures : ∀ column, Ensures root [] (fun found => ∀ row : JoinedRow,
      found.map (truth row) = truths column (row.cell column)) (demand column)) :
    Ensures root [token] (fun found => ∀ row : JoinedRow, found.map (truth row) =
      leafTruths root token fun column => truths column (row.cell column))
      (leaf root token demand) := by
  refine Ensures.leaf (fun none row => ?_) fun column leads => ?_
  · rw [leafTruths, none]
    rfl
  · refine (ensures column).mono fun found demands row => ?_
    rw [demands row, leafTruths, leads]
    rfl

theorem equality_leaf_ensures (token : String) (v : Value) :
    Ensures root [token] (fun found => ∀ row : JoinedRow, found.map (truth row) =
      leafTruths root token fun column => [equalityTruth column (row.cell column) v])
      (leaf root token fun column => return [← equalityCondition column v]) := by
  refine leaf_ensures (fun column cell => [equalityTruth column cell v]) fun column => ?_
  refine (equalityCondition_ensures column v).then fun condition demands => .pure fun row => ?_
  rw [List.map_singleton, demands row]

/-- Truths joined to one, if there are any. -/
def groupTruths (combinator : Combinator) (truths : List Truth) : List Truth :=
  if truths.isEmpty then [] else [Truth.joined combinator truths]

theorem groupConditions_truth (row : JoinedRow) (combinator : Combinator)
    (clauses : List Condition) : (groupConditions combinator clauses).map (truth row) =
      groupTruths combinator (clauses.map (truth row)) := by
  unfold groupConditions groupTruths
  rw [List.isEmpty_map]
  split
  · rfl
  · rw [List.map_singleton, truth_combine]

mutual

/-- The tokens that planning an entry follows, in order. -/
def entryTokens (key : String) : Value → List String
  | .list items | .tuple items =>
    if (Combinator.ofKey? key).isSome then clauseTokens items else [key]
  | _ => if (Combinator.ofKey? key).isSome then [] else [key]

/-- The tokens that planning clauses follows, in order. -/
def clauseTokens : List Value → List String
  | [] => []
  | .object members :: rest => predicateTokens members ++ clauseTokens rest
  | _ :: rest => clauseTokens rest

/-- The tokens that planning a predicate follows, in order. -/
def predicateTokens : List (String × Value) → List String
  | [] => []
  | (key, value) :: rest => entryTokens key value ++ predicateTokens rest

end

mutual

/-- The truths of an entry, given the cells of columns. -/
def entryTruths (cells : ColumnRef → Cell) (root : Entity) (key : String) : Value → List Truth
  | .object members =>
    match Combinator.ofKey? key with
    | some _ => []
    | none => leafTruths root key fun column => operatorTruths column (cells column) members
  | .list items =>
    match Combinator.ofKey? key with
    | some combinator => groupTruths combinator (clauseTruths cells root items)
    | none => leafTruths root key fun column => [equalityTruth column (cells column) (.list items)]
  | .tuple items =>
    match Combinator.ofKey? key with
    | some combinator => groupTruths combinator (clauseTruths cells root items)
    | none => leafTruths root key fun column => [equalityTruth column (cells column) (.tuple items)]
  | value =>
    match Combinator.ofKey? key with
    | some _ => []
    | none => leafTruths root key fun column => [equalityTruth column (cells column) value]

/-- The truth of each clause that demands something. -/
def clauseTruths (cells : ColumnRef → Cell) (root : Entity) : List Value → List Truth
  | [] => []
  | .object members :: rest =>
    groupTruths .all (predicateTruths cells root members) ++ clauseTruths cells root rest
  | _ :: rest => clauseTruths cells root rest

/-- The truths of a predicate, entry by entry. -/
def predicateTruths (cells : ColumnRef → Cell) (root : Entity) :
    List (String × Value) → List Truth
  | [] => []
  | (key, value) :: rest =>
    entryTruths cells root key value ++ predicateTruths cells root rest

end

/-- What is ensured of conditions: they have these truths on every row. -/
abbrev HasTruths (truths : (ColumnRef → Cell) → List Truth) (found : List Condition) : Prop :=
  ∀ row : JoinedRow, found.map (truth row) = truths row.cell

mutual

theorem entry_ensures (root : Entity) (key : String) (value : Value) :
    Ensures root (entryTokens key value)
      (HasTruths fun cells => entryTruths cells root key value)
      (entryConditions root key value) := by
  cases value with
  | object members =>
    cases grouped : Combinator.ofKey? key with
    | some combinator =>
      simp only [entryTokens, entryTruths, entryConditions, grouped]
      exact Ensures.pure fun row => rfl
    | none =>
      simp only [entryTokens, entryTruths, entryConditions, grouped]
      exact leaf_ensures (fun column cell => operatorTruths column cell members) fun column =>
        operatorConditions_ensures column members
  | list items =>
    cases grouped : Combinator.ofKey? key with
    | some combinator =>
      simp only [entryTokens, entryTruths, entryConditions, grouped]
      exact (clause_ensures root items).map fun clauses demands row => by
        rw [groupConditions_truth, demands row]
    | none =>
      simp only [entryTokens, entryTruths, entryConditions, grouped]
      exact equality_leaf_ensures key (.list items)
  | tuple items =>
    cases grouped : Combinator.ofKey? key with
    | some combinator =>
      simp only [entryTokens, entryTruths, entryConditions, grouped]
      exact (clause_ensures root items).map fun clauses demands row => by
        rw [groupConditions_truth, demands row]
    | none =>
      simp only [entryTokens, entryTruths, entryConditions, grouped]
      exact equality_leaf_ensures key (.tuple items)
  | text s =>
    cases grouped : Combinator.ofKey? key with
    | some combinator =>
      simp only [entryTokens, entryTruths, entryConditions, grouped]
      exact Ensures.pure fun row => rfl
    | none =>
      simp only [entryTokens, entryTruths, entryConditions, grouped]
      exact equality_leaf_ensures key (.text s)
  | _ =>
    cases grouped : Combinator.ofKey? key with
    | some combinator =>
      simp only [entryTokens, entryTruths, entryConditions, grouped]
      exact Ensures.refusal (fun row => rfl) _
    | none =>
      simp only [entryTokens, entryTruths, entryConditions, grouped]
      exact equality_leaf_ensures key _

theorem clause_ensures (root : Entity) (items : List Value) :
    Ensures root (clauseTokens items) (HasTruths fun cells => clauseTruths cells root items)
      (clauseConditions root items) := by
  cases items with
  | nil => exact Ensures.pure fun row => rfl
  | cons item rest =>
    cases item with
    | object members =>
      simp only [clauseTokens, clauseTruths, clauseConditions]
      refine (predicate_ensures root members).bind fun own demands => ?_
      refine (clause_ensures root rest).map fun others demands' row => ?_
      have own_truths : own.map (truth row) = predicateTruths row.cell root members := demands row
      have other_truths : others.map (truth row) = clauseTruths row.cell root rest := demands' row
      dsimp only [groupTruths]
      rw [← own_truths, ← other_truths, List.isEmpty_map]
      split
      · rfl
      · rw [List.map_cons, truth_all]
        rfl
    | _ =>
      simp only [clauseTokens, clauseTruths, clauseConditions]
      exact clause_ensures root rest

/-- Planning a predicate joins what its tokens need, and its conditions have its truths. -/
theorem predicate_ensures (root : Entity) (members : List (String × Value)) :
    Ensures root (predicateTokens members)
      (HasTruths fun cells => predicateTruths cells root members)
      (predicateConditions root members) := by
  cases members with
  | nil => exact Ensures.pure fun row => rfl
  | cons member rest =>
    obtain ⟨key, value⟩ := member
    simp only [predicateTokens, predicateTruths, predicateConditions]
    refine (entry_ensures root key value).bind fun own demands => ?_
    refine (predicate_ensures root rest).map fun others demands' row => ?_
    rw [List.map_append, demands row, demands' row]

end

end QueryDesk.Plan

import QueryDesk.Plan.Binding
import QueryDesk.Plan.Condition
import QueryDesk.Plan.Resolve
import QueryDesk.Query.Compile

/-!
# From specifications to plans

A specification becomes a plan over an entity: joins in the order in which tokens first need them,
conditions, sort keys, and the part of the rows to give. Entries whose token leads to no column and
operators that are unknown are passed over.
-/

namespace QueryDesk

/-- A way to read rows of an entity. -/
structure Plan where
  entity : Entity
  joins : List Join := []
  /-- The conditions that a row has to meet together. -/
  conditions : List Condition := []
  order : List (ColumnRef × Direction) := []
  limit : Option Nat := none
  /-- The number of rows to pass over, if it is not zero. -/
  offset : Option Nat := none
  log : List LogLine := []

namespace Plan

/-- What planning has collected on its way. -/
structure Walk where
  joins : List Join := []
  log : List LogLine := []

/-- A step of planning. -/
abbrev Planning := StateT Walk (Except PlanFault)

/-- Follows a token and joins what it passes. -/
def visit (root : Entity) (token : String) : Planning (Option ColumnRef) := do
  let r := resolve root token
  modify fun w => { w with joins := addJoins w.joins r.joins }
  return r.column?

/-- Notes a log line. -/
def note (line : LogLine) : Planning Unit :=
  modify fun w => { w with log := w.log ++ [line] }

/-- The relations of the comparison operators. -/
def relationOf? (operator : String) : Option Relation :=
  [("GT", .gt), ("GTE", .ge), ("LT", .lt), ("LTE", .le), ("NE", .ne)].lookup operator

/-- The line about an operator that no column has. -/
def unsupportedLine (operator : String) (column : ColumnRef) : LogLine :=
  ⟨.debug, s!"unsupported operator {Text.Quoted.encode operator} for {column.label}"⟩

/-- The line about a token that leads to no column. -/
def unknownLine (token : String) (root : Entity) : LogLine :=
  ⟨.debug, s!"skipping unknown field {Text.Quoted.encode token} on {root.name}"⟩

/-- The order is no matter between a column and null or a truth value. -/
def isUnordered : Option Value → Bool
  | none | some (.bool _) => true
  | _ => false

/-- A comparison with a bound operand; equality with null asks for null itself. -/
def comparison (relation : Relation) (column : ColumnRef) (bound : Option Value) :
    Except PlanFault Condition :=
  match relation, bound with
  | .eq, none => .ok (.isNull column)
  | .ne, none => .ok (.isNotNull column)
  | .eq, some operand | .ne, some operand => .ok (.compare relation column operand)
  | _, _ => if isUnordered bound then .error .unorderedOperand
    else .ok (.compare relation column (bound.getD .null))

/-- What an operator with its operand demands of a column; an unknown operator demands nothing. -/
def operatorCondition (column : ColumnRef) (operator : String) (operand : Value) :
    Planning (Option Condition) := do
  if operator = Search.patternKey then
    match operand.text? with
    | some pattern => return some (.like column pattern)
    | none => throw .tooManyDigits
  else
    let bound ← Binding.bind column.column.kind operand
    if bound.isNone && !operand.isNull then return some .never
    match relationOf? operator with
    | some relation => return some (← comparison relation column bound)
    | none =>
      note (unsupportedLine operator column)
      return none

/-- What operators with their operands demand of a column. -/
def operatorConditions (column : ColumnRef) : Members → Planning (List Condition)
  | [] => return []
  | (operator, operand) :: rest => do
    let first ← operatorCondition column operator operand
    let others ← operatorConditions column rest
    return first.toList ++ others

/-- What a value demands of the column that is to equal it. -/
def equalityCondition (column : ColumnRef) (value : Value) : Planning Condition := do
  if value.isNull then return .isNull column
  match ← Binding.bind column.column.kind value with
  | none => return .never
  | some operand => return .compare .eq column operand

/-- What a leaf demands, given what to demand of its column. -/
def leaf (root : Entity) (token : String)
    (demand : ColumnRef → Planning (List Condition)) : Planning (List Condition) := do
  match ← visit root token with
  | none =>
    note (unknownLine token root)
    return []
  | some column => demand column

/-- The conditions of a group; without clauses that demand something there are none. -/
def groupConditions (combinator : Combinator) (clauses : List Condition) : List Condition :=
  if clauses.isEmpty then [] else [.combine combinator clauses]

mutual

/-- The conditions of one predicate entry. A text or an object under a group key holds no clauses,
    and neither does a value that counts as absent. -/
def entryConditions (root : Entity) (key : String) : Value → Planning (List Condition)
  | .object members =>
    match Combinator.ofKey? key with
    | some _ => return []
    | none => leaf root key fun column => operatorConditions column members
  | .list items =>
    match Combinator.ofKey? key with
    | some combinator => return groupConditions combinator (← clauseConditions root items)
    | none => leaf root key fun column => return [← equalityCondition column (.list items)]
  | .tuple items =>
    match Combinator.ofKey? key with
    | some combinator => return groupConditions combinator (← clauseConditions root items)
    | none => leaf root key fun column => return [← equalityCondition column (.tuple items)]
  | .text s =>
    match Combinator.ofKey? key with
    | some _ => return []
    | none => leaf root key fun column => return [← equalityCondition column (.text s)]
  | value =>
    match Combinator.ofKey? key with
    | some _ => if value.isTruthy then throw .groupNotList else return []
    | none => leaf root key fun column => return [← equalityCondition column value]

/-- The condition of each clause of a group that demands something; what is no object demands
    nothing. -/
def clauseConditions (root : Entity) : List Value → Planning (List Condition)
  | [] => return []
  | .object members :: rest => do
    let own ← predicateConditions root members
    let others ← clauseConditions root rest
    return if own.isEmpty then others else .all own :: others
  | _ :: rest => clauseConditions root rest

/-- The conditions of the entries of a predicate, in order. -/
def predicateConditions (root : Entity) : List (String × Value) → Planning (List Condition)
  | [] => return []
  | (key, value) :: rest => do
    let own ← entryConditions root key value
    let others ← predicateConditions root rest
    return own ++ others

end

/-- The sort keys whose tokens lead to columns. -/
def orderColumns (root : Entity) : List OrderClause → Planning (List (ColumnRef × Direction))
  | [] => return []
  | clause :: rest => do
    let column ← visit root clause.field
    let others ← orderColumns root rest
    return (column.map (·, clause.direction)).toList ++ others

/-- The number of rows to pass over: none for a negative offset. -/
def offsetOf (p : Pagination) : Option Nat :=
  if 0 < p.offset then some p.offset.toNat else none

/-- The number of rows to give: all for a negative limit. -/
def limitOf (p : Pagination) : Option Nat :=
  p.limit.bind fun n => if 0 ≤ n then some n.toNat else none

/-- A plan with the page of a specification. -/
def paginate (plan : Plan) (p : Pagination) : Plan :=
  { plan with limit := limitOf p, offset := offsetOf p }

/-- The plan of a specification, without its page. -/
def ofSpec (root : Entity) (spec : QuerySpec) : Except PlanFault Plan := do
  let planning : Planning (List Condition × List (ColumnRef × Direction)) := do
    let conditions ← predicateConditions root spec.predicate
    let order ← orderColumns root spec.order
    return (conditions, order)
  let ((conditions, order), walk) ← planning.run {}
  return { entity := root, joins := walk.joins, conditions, order, log := walk.log }

/-- The plan of a specification. -/
def ofSpecPaged (root : Entity) (spec : QuerySpec) : Except PlanFault Plan :=
  return (← ofSpec root spec).paginate spec.pagination

end Plan

end QueryDesk

import QueryDesk.Plan.OfSpec
import QueryDesk.Store.Cell
import QueryDesk.Store.Fault

/-!
# Operands of statements

The operands of a plan's conditions are handed over in the order in which they stand. First every
operand is given the form of its column's type, then the statement is read, and then the operands
are taken one by one; the first fault on the way is the statement's.
-/

namespace QueryDesk

/-- What a condition compares a column with. -/
inductive Operand.Slot where
  | operand (column : ColumnRef) (value : Value)
  | pattern (column : ColumnRef)

namespace Operand

/-- A collection, which is no operand of any type. -/
def isCollection : Value → Bool
  | .list _ | .tuple _ | .object _ => true
  | _ => false

/-- The operand has a form for the type of the column. -/
def Slot.isBindable : Slot → Bool
  | .pattern column => column.column.kind != .uuid
  | .operand _ (.decimal (.nan _ true _)) => false
  | .operand column value =>
    !(isCollection value && (column.column.kind == .uuid || column.column.kind == .moment))

/-- The fault of taking an operand. -/
def Slot.fault? : Slot → Option StoreFault
  | .pattern _ => none
  | .operand _ (.int n) => if Cell.fits n then none else some .integerRange
  | .operand _ value => if isCollection value then some .unsupportedOperand else none

/-- The cell of an operand. -/
def cell : Value → Cell
  | .bool b => .int (if b then 1 else 0)
  | .int n => .int n
  | .float x => .ofBinary64 x
  | .decimal d => (d.toBinary64?.map Cell.ofBinary64).getD .null
  | .text s | .damaged s => .text s.toList
  | .uuid u => .text u.hex
  | .moment m => .text m.storedText
  | .date days => .text (Calendar.Date.ofDays days).text
  | .null | .list _ | .tuple _ | .object _ => .null

end Operand

namespace Condition

mutual

/-- The operands of a condition, in order. -/
def slots : Condition → List Operand.Slot
  | compare _ column operand => [.operand column operand]
  | like column _ => [.pattern column]
  | group _ conditions => slotsOf conditions
  | never | isNull _ | isNotNull _ => []

/-- The operands of conditions, in order. -/
def slotsOf : List Condition → List Operand.Slot
  | [] => []
  | condition :: rest => slots condition ++ slotsOf rest

end

end Condition

namespace Plan

/-- The operands of a plan's conditions; an impossible condition leaves none. -/
def slots (plan : Plan) : List Operand.Slot :=
  if plan.conditions.any Condition.isNever then [] else Condition.slotsOf plan.conditions

/-- The entities whose tables a plan reads. -/
def entities (plan : Plan) : List Entity :=
  plan.entity :: plan.joins.map (·.association.target)

/-- No table stands twice in the plan. -/
def hasDistinctTables (plan : Plan) : Bool :=
  decide plan.entities.Nodup

/-- A limit or an offset that no cell can hold. -/
def pageFault? (plan : Plan) : Option StoreFault :=
  if (plan.limit.toList ++ plan.offset.toList).all fun n => Cell.fits n then none
  else some .integerRange

/-- The fault of a plan's statement, if it has one. -/
def fault? (plan : Plan) : Option StoreFault :=
  if !plan.slots.all Operand.Slot.isBindable then some .unboundable
  else if !plan.hasDistinctTables then some .ambiguousTable
  else (plan.slots.findSome? Operand.Slot.fault?).or plan.pageFault?

end Plan

end QueryDesk

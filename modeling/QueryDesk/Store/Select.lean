import QueryDesk.Store.Like
import QueryDesk.Store.Operand
import QueryDesk.Store.Row

/-!
# Running plans

A plan reads the rows of its entity, each with the rows that its joins associate with it, keeps
those that meet its conditions, sorts them by its sort keys, and gives a part of them. A row without
associated rows stays, with nulls in their place. Rows that no sort key tells apart stay in the
order in which they are visited.
-/

namespace QueryDesk

/-- A row of each entity that a plan reads; a joined entity may have none. -/
abbrev JoinedRow := List (Entity × Option Row)

namespace JoinedRow

/-- The cell of a column. -/
def cell (row : JoinedRow) (c : ColumnRef) : Cell :=
  match row.lookup c.entity with
  | some (some r) => r.cell c.column.name
  | _ => .null

/-- The row of the plan's own entity. -/
def root? (row : JoinedRow) : Option Row :=
  row.head?.bind (·.2)

end JoinedRow

namespace Condition

/-- The relation holds of an order. -/
def relationHolds : Relation → Ordering → Bool
  | .eq, o => o == .eq
  | .ne, o => o != .eq
  | .lt, o => o == .lt
  | .le, o => o != .gt
  | .gt, o => o == .gt
  | .ge, o => o != .lt

/-- The truth of a comparison between a column's cell and an operand. -/
def compareTruth (relation : Relation) (kind : ColumnKind) (cell : Cell) (operand : Value) :
    Truth :=
  (Cell.compare? cell (kind.affinity.convert (Operand.cell operand))).map (relationHolds relation)

/-- The truth of a pattern. -/
def likeTruth (pattern : String) (cell : Cell) : Truth :=
  cell.text?.map (Like.holds pattern.toList)

/-- The truth of a group without members. -/
def emptyTruth : Combinator → Truth
  | .all => some true
  | .any => some false

/-- Two truths joined. -/
def joinTruth : Combinator → Truth → Truth → Truth
  | .all => Truth.and
  | .any => Truth.or

mutual

/-- The truth of a condition on a row. -/
def truth (row : JoinedRow) : Condition → Truth
  | never => some false
  | compare relation column operand =>
    compareTruth relation column.column.kind (row.cell column) operand
  | isNull column => some (row.cell column == .null)
  | isNotNull column => some (row.cell column != .null)
  | like column pattern => likeTruth pattern (row.cell column)
  | group combinator conditions => groupTruth row combinator conditions

/-- The truth of conditions joined. -/
def groupTruth (row : JoinedRow) (combinator : Combinator) : List Condition → Truth
  | [] => emptyTruth combinator
  | condition :: rest =>
    joinTruth combinator (truth row condition) (groupTruth row combinator rest)

end

end Condition

namespace Plan

/-- The rows of an entity that belong to a row by an association. -/
def associated (db : Database) (association : Association) (source : Option Row) : List Row :=
  match source with
  | none => []
  | some r =>
    (db.rows association.target).filter fun t =>
      Cell.compare? (r.cell association.sourceColumn) (t.cell association.targetColumn) == some .eq

/-- Joins associated rows to a row; there is one result for each of them, and one if there are
    none. -/
def joinOnto (db : Database) (join : Join) (source : Entity) (row : JoinedRow) : List JoinedRow :=
  match associated db join.association ((row.lookup source).join) with
  | [] => [row ++ [(join.association.target, none)]]
  | found => found.map fun r => row ++ [(join.association.target, some r)]

/-- The entity from which a join leads on. -/
def sourceOf (root : Entity) (joins : List Join) (join : Join) : Entity :=
  ((joins.find? (·.path == join.path.dropLast)).map (·.association.target)).getD root

/-- The rows of a plan's entity with their associated rows. -/
def joinedRows (db : Database) (plan : Plan) : List JoinedRow :=
  plan.joins.foldl
    (fun rows join => rows.flatMap (joinOnto db join (sourceOf plan.entity plan.joins join)))
    ((db.rows plan.entity).map fun r => [(plan.entity, some r)])

/-- The row meets all of the plan's conditions. -/
def accepts (plan : Plan) (row : JoinedRow) : Bool :=
  Condition.groupTruth row .all plan.conditions == some true

/-- The order of two rows by sort keys. -/
def compareBy (row other : JoinedRow) : List (ColumnRef × Direction) → Ordering
  | [] => .eq
  | (column, direction) :: rest =>
    let o := (row.cell column).order (other.cell column)
    ((match direction with
      | .asc => o
      | .desc => o.swap)).then (compareBy row other rest)

/-- The sort keys do not put a row after another. -/
def inOrder (plan : Plan) (row other : JoinedRow) : Bool :=
  compareBy row other plan.order != .gt

/-- The rows that meet the conditions. -/
def selected (db : Database) (plan : Plan) : List JoinedRow :=
  (joinedRows db plan).filter (accepts plan)

/-- The selected rows in order. Sorting is stable, so that ties stay as they are visited. -/
def sorted (db : Database) (plan : Plan) : List JoinedRow :=
  (selected db plan).mergeSort (inOrder plan)

/-- A part of a list: some passed over, and then at most so many. -/
def part {α : Type} (plan : Plan) (rows : List α) : List α :=
  let rest := rows.drop (plan.offset.getD 0)
  (plan.limit.map rest.take).getD rest

/-- Rows without those that came before. -/
def distinctFrom (seen : List Row) : List Row → List Row
  | [] => []
  | r :: rest =>
    if seen.contains r then distinctFrom seen rest else r :: distinctFrom (r :: seen) rest

/-- The rows of the plan's entity in its part of the sorted rows, each once. -/
def run (db : Database) (plan : Plan) : List Row :=
  distinctFrom [] ((plan.part (sorted db plan)).filterMap JoinedRow.root?)

/-- The rows of a plan, or the fault of its statement. -/
def execute (db : Database) (plan : Plan) : Except StoreFault (List Row) :=
  match plan.fault? with
  | some fault => .error fault
  | none => .ok (run db plan)

/-- The number of selected rows, counted once for each combination with associated rows, or the
    fault of the statement. -/
def count (db : Database) (plan : Plan) : Except StoreFault Nat :=
  match plan.fault? with
  | some fault => .error fault
  | none => .ok (selected db plan).length

end Plan

end QueryDesk

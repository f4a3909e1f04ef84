import QueryDesk.Catalog
import QueryDesk.Query.Config
import QueryDesk.Value.Basic

/-!
# Conditions

What a plan demands of a row. `Condition.all` and `Condition.any` keep conditions in normal form: a
group has two members or more and none that is a group of the same kind, a conjunction with an
impossible member is impossible, and a disjunction drops its impossible members.
-/

namespace QueryDesk

/-- The comparisons. -/
inductive Relation where
  | eq
  | ne
  | lt
  | le
  | gt
  | ge
  deriving DecidableEq, Repr

/-- A condition on a row. -/
inductive Condition where
  /-- No row meets it. -/
  | never
  | compare (relation : Relation) (column : ColumnRef) (operand : Value)
  | isNull (column : ColumnRef)
  | isNotNull (column : ColumnRef)
  | like (column : ColumnRef) (pattern : String)
  | group (combinator : Combinator) (conditions : List Condition)
  deriving Inhabited

namespace Condition

/-- The condition is the impossible one. -/
def isNever : Condition → Bool
  | never => true
  | _ => false

/-- The members that a condition has as part of a group of this kind. -/
def membersIn (combinator : Combinator) : Condition → List Condition
  | group c conditions => if c = combinator then conditions else [group c conditions]
  | condition => [condition]

/-- A group of one is its member. -/
def grouped (combinator : Combinator) : List Condition → Condition
  | [single] => single
  | conditions => group combinator conditions

/-- All of the conditions hold. -/
def all (conditions : List Condition) : Condition :=
  if conditions.any isNever then never
  else grouped .all (conditions.flatMap (membersIn .all))

/-- Some of the conditions holds. -/
def any (conditions : List Condition) : Condition :=
  match (conditions.filter (!·.isNever)).flatMap (membersIn .any) with
  | [] => never
  | possible => grouped .any possible

/-- The conditions joined. -/
def combine : Combinator → List Condition → Condition
  | .all => all
  | .any => any

end Condition

end QueryDesk

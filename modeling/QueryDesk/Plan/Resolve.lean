import QueryDesk.Catalog
import QueryDesk.Query.FieldPath

/-!
# Resolving field tokens

A token leads from an entity along associations to a column. The associations that it passes are
joined even when no column stands at its end.
-/

namespace QueryDesk

/-- A join of the rows at the end of a path of associations. -/
structure Join where
  path : List String
  association : Association
  deriving DecidableEq, Repr

/-- Where a token leads: the joins on its way, and the column at its end if there is one. -/
structure Resolution where
  joins : List Join
  column? : Option ColumnRef
  deriving DecidableEq, Repr

/-- Follows names from an entity that a path has led to. -/
def follow (path : List String) (e : Entity) : List String → Resolution
  | [] => ⟨[], none⟩
  | [name] => ⟨[], (e.column? name).map (⟨e, ·⟩)⟩
  | name :: rest =>
    match e.association? name with
    | none => ⟨[], none⟩
    | some association =>
      let onward := follow (path ++ [name]) association.target rest
      ⟨⟨path ++ [name], association⟩ :: onward.joins, onward.column?⟩

/-- Where a token leads from an entity. -/
def resolve (e : Entity) (token : String) : Resolution :=
  follow [] e (FieldPath.parts token)

/-- Joins after others, each path once. -/
def addJoins (joined : List Join) (more : List Join) : List Join :=
  more.foldl (fun joined join =>
    if joined.any (·.path == join.path) then joined else joined ++ [join]) joined

end QueryDesk

import QueryDesk.Text.Segments
import QueryDesk.Value.Basic

/-!
# Field paths

A field is the name of a column, or the names of associations and a column with points between
them. A token stands for a field in predicates and orders: a field with a point is wrapped in dollar
signs, any other is its own token.
-/

namespace QueryDesk.FieldPath

/-- How a field is written as a token. -/
abbrev Format := String → String

/-- The token of a field. -/
def token : Format := fun field =>
  if field.toList.contains '.' then
    String.ofList ('$' :: field.toList ++ ['$'])
  else field

/-- A token in which two underscores stand for each point. -/
def underscored : Format := fun field =>
  String.ofList (field.toList.flatMap fun c => if c = '.' then ['_', '_'] else [c])

/-- A token without the dollar signs around it, if it has both. -/
def unwrap (cs : List Char) : List Char :=
  if 1 < cs.length && cs.head? == some '$' && cs.getLast? == some '$' then
    cs.tail.dropLast
  else cs

/-- The names in a text with points between them; empty names are left out. -/
def names (cs : List Char) : List String :=
  ((Text.splitAt '.' cs).filter (!·.isEmpty)).map String.ofList

/-- The names that a token stands for. -/
def parts (token : String) : List String :=
  names (unwrap token.toList)

end QueryDesk.FieldPath

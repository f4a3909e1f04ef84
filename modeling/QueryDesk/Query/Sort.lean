import QueryDesk.Query.Config
import QueryDesk.Query.Fault
import QueryDesk.Query.FieldPath
import QueryDesk.Query.Spec

/-!
# Sorting

A sort text has tokens between ampersands. The key of a token is what precedes its first hyphen, so
a token that begins with a hyphen has the empty key.
-/

namespace QueryDesk.Sort

/-- The key of a token. -/
def key (token : List Char) : String :=
  String.ofList (token.takeWhile (· ≠ '-'))

/-- The direction of a token: descending after a hyphen. -/
def direction (token : List Char) : Direction :=
  if token.head? = some '-' then .desc else .asc

/-- The sort keys of a sort text: those of its tokens whose key is a sort field. -/
def ofText (sort : String) (config : ResourceConfig) (format : FieldPath.Format) :
    List OrderClause :=
  ((Text.splitAt '&' sort.toList).filter (config.sortFields.contains <| key ·)).map fun token =>
    ⟨format (key token), direction token⟩

/-- The sort keys of the sort parameter; an empty one has none. -/
def order (sort : Value) (config : ResourceConfig)
    (format : FieldPath.Format := FieldPath.token) : Except QueryFault (List OrderClause) :=
  if !sort.isTruthy then .ok []
  else match sort with
    | .text s => .ok (ofText s config format)
    | _ => .error .sortNotText

end QueryDesk.Sort

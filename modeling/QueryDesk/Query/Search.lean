import QueryDesk.Query.Config
import QueryDesk.Query.Fault
import QueryDesk.Query.FieldPath
import QueryDesk.Value.Text

/-!
# Free-text search

A search asks every search field of a resource for the same pattern: the searched text with any text
around it.
-/

namespace QueryDesk.Search

/-- The operator of a pattern. -/
def patternKey : String := "ILIKE"

/-- The pattern of the texts that contain a text. -/
def pattern (s : String) : String :=
  "%" ++ s ++ "%"

/-- The conditions that the search fields match a pattern, one for each field. -/
def clauses (config : ResourceConfig) (format : FieldPath.Format) (pattern : String) :
    List Value :=
  config.searchFields.map fun field =>
    .object [(format field, .object [(patternKey, .text pattern)])]

/-- The predicate of a search: nothing if the search or the list of search fields is empty. -/
def predicate (search : Value) (config : ResourceConfig)
    (format : FieldPath.Format := FieldPath.token) : Except QueryFault Members :=
  if !search.isTruthy || config.searchFields.isEmpty then .ok []
  else match search.text? with
    | some s => .ok [(config.searchCombinator.key, .list (clauses config format (pattern s)))]
    | none => .error .tooManyDigits

end QueryDesk.Search

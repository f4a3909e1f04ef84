import QueryDesk.Query.Filter
import QueryDesk.Query.Merge
import QueryDesk.Query.Search
import QueryDesk.Query.Sort

/-!
# Compiling parameters

The parameters of a list request become a specification. Filters replace what a search says under
the same key.
-/

namespace QueryDesk

/-- A specification and the log lines of its making. -/
structure CompiledQuery where
  spec : QuerySpec
  log : List LogLine := []

/-- The value of a parameter; null if it is absent. -/
def param (params : Members) (key : String) : Value :=
  (params.get? key).getD .null

/-- The specification that parameters ask for. -/
def compileQuery (params : Members) (config : ResourceConfig)
    (format : FieldPath.Format := FieldPath.token) : Except QueryFault CompiledQuery := do
  let pagination ←
    Pagination.resolve (param params "page") (param params "limit") (param params "offset")
  let search ← Search.predicate (param params "search") config format
  let order ← Sort.order (param params "sort") config format
  let filters ← Filter.predicate params config format
  let contributions : List Contribution := [⟨"search", search⟩, ⟨"filter", filters⟩]
  return ⟨⟨pagination, order, Contribution.merged contributions⟩, Contribution.log contributions⟩

end QueryDesk

import QueryDesk.Store.Select
import QueryDesk.Value.Plain

/-!
# Listings

A listing answers the parameters of a list request: a page of rows, and how many rows there are in
all.
-/

namespace QueryDesk

/-- Why a list request fails. -/
inductive ListFault where
  | query (fault : QueryFault)
  | plan (fault : PlanFault)
  | store (fault : StoreFault)
  deriving DecidableEq, Repr

/-- A page of rows with the number of all rows, and the limit and offset that were asked for. -/
structure Listing where
  items : List Row
  total : Nat
  limit : Option Int
  offset : Int

/-- A resource: an entity with its query capabilities and the format of its field tokens. -/
structure Resource where
  entity : Entity
  config : ResourceConfig
  format : FieldPath.Format := FieldPath.token

namespace Resource

/-- The users. -/
def users : Resource := ⟨.user, .users, FieldPath.token⟩

/-- The posts. -/
def posts : Resource := ⟨.post, .posts, FieldPath.token⟩

/-- The listing that a specification asks for: the rows are counted before the page is read. -/
def listSpec (r : Resource) (db : Database) (spec : QuerySpec) : Except ListFault Listing := do
  let plan ← (Plan.ofSpec r.entity spec).mapError .plan
  let total ← (plan.count db).mapError .store
  let items ← ((plan.paginate spec.pagination).execute db).mapError .store
  return ⟨items, total, spec.pagination.limit, spec.pagination.offset⟩

/-- The listing that parameters ask for. -/
def list (r : Resource) (db : Database) (params : Members) : Except ListFault Listing := do
  let compiled ← (compileQuery params r.config r.format).mapError .query
  r.listSpec db compiled.spec

end Resource

namespace Row

/-- The JSON-ready members of a row; no column holds a value that has none. -/
def item (r : Row) : Value :=
  match (Value.object r.members).plain with
  | .ok v => v
  | .error _ => .null

end Row

namespace Listing

/-- The JSON-ready form of a listing. -/
def value (l : Listing) : Value :=
  .object [("items", .list (l.items.map Row.item)), ("total", .int l.total),
    ("limit", (l.limit.map Value.int).getD .null), ("offset", .int l.offset)]

end Listing

end QueryDesk

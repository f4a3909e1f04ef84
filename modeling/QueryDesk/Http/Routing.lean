import QueryDesk.Http.Message
import QueryDesk.Http.Query

/-!
# Routes

A route has a path and methods. A request for a path that differs from that of a route by slashes at
its end is sent on to the route.
-/

namespace QueryDesk.Http

/-- A path and its methods, with what answers there. -/
structure Route (α : Type) where
  methods : List String
  path : String
  target : α

/-- Where a request leads. -/
inductive Destination (α : Type) where
  | target (a : α)
  /-- The path has other methods. -/
  | otherMethod (allowed : List String)
  /-- A route has this path, from which that of the request differs by slashes at its end. -/
  | elsewhere (path : List Char)
  | nowhere

/-- A path with its final slashes exchanged: without them if there are any, else with one. -/
def exchangeSlash (path : List Char) : List Char :=
  if path.getLast? = some '/' then Text.dropWhileEnd (· == '/') path else path ++ ['/']

/-- Where a request leads among routes. -/
def destination {α : Type} (routes : List (Route α)) (r : Request) : Destination α :=
  let path := Query.unescape r.path.toList
  match routes.filter (·.path.toList == path) with
  | [] =>
    if path != ['/'] && routes.any (·.path.toList == exchangeSlash path) then
      .elsewhere (exchangeSlash path)
    else .nowhere
  | first :: others =>
    match (first :: others).find? (·.methods.contains r.method) with
    | some route => .target route.target
    | none => .otherMethod first.methods

/-- The server of a request as addresses name it. -/
def Request.site (r : Request) : String :=
  match (r.header? "Host").or r.server with
  | some server => r.scheme ++ "://" ++ server
  | none => ""

/-- The address of another path with the query of a request. -/
def Request.address (r : Request) (path : List Char) : String :=
  let query := if r.query.isEmpty then "" else "?" ++ r.query
  String.ofList (Query.escape (r.site.toList ++ path ++ query.toList))

/-- The answer to a request that leads to no target. -/
def undirected {α : Type} (r : Request) : Destination α → Response
  | .otherMethod allowed =>
    detail 405 "Method Not Allowed" [("allow", Text.joined ", " allowed)]
  | .elsewhere path => ⟨307, .text "", [("location", r.address path)]⟩
  | _ => detail 404 "Not Found"

end QueryDesk.Http

import QueryDesk.Text.Blank
import QueryDesk.Text.Case
import QueryDesk.Validation

/-!
# Requests and responses
-/

namespace QueryDesk.Http

/-- Names with values, in order. -/
abbrev Headers := List (String × String)

/-- A request. -/
structure Request where
  scheme : String := "http"
  /-- The address at which the server took the request, if it knows. -/
  server : Option String := none
  method : String
  path : String
  query : String := ""
  headers : Headers := []
  /-- The text sent with the request; none and an empty text are the same. -/
  body : String := ""
  deriving DecidableEq, Repr

/-- What a response carries. -/
inductive Body where
  | json (v : Value)
  | text (s : String)
  /-- The misfits of a refused request. -/
  | issues (found : List Issue)

/-- A response. -/
structure Response where
  status : Nat
  body : Body
  headers : Headers := []

/-- The two names are the same up to ASCII case. -/
def sameName (a b : String) : Bool :=
  Text.asciiLower a.toList == Text.asciiLower b.toList

/-- The value of the first header of a name. -/
def Request.header? (r : Request) (name : String) : Option String :=
  (r.headers.find? fun h => sameName h.1 name).map (·.2)

/-- A response with a detail. -/
def detail (status : Nat) (text : String) (headers : Headers := []) : Response :=
  ⟨status, .json (.object [("detail", .text text)]), headers⟩

/-- The response to a request whose input was refused. -/
def refused (found : List Issue) : Response :=
  ⟨422, .issues found, []⟩

/-- A response with a value. -/
def ok (v : Value) : Response :=
  ⟨200, .json v, []⟩

/-- The response has further headers. -/
def Response.with (r : Response) (headers : Headers) : Response :=
  { r with headers := r.headers ++ headers }

end QueryDesk.Http

import QueryDesk.Http.Message
import QueryDesk.Text.Segments

/-!
# Requests from other origins

A page of another origin may read answers if its origin is allowed. Before some requests it asks
for permission, and that request is answered here.
-/

namespace QueryDesk.Http.Cors

/-- The methods that are allowed. -/
def methods : List String := ["DELETE", "GET", "HEAD", "OPTIONS", "PATCH", "POST", "PUT"]

/-- The origin is allowed; a star allows all. -/
def allows (origins : List String) (origin : String) : Bool :=
  origins.contains "*" || origins.contains origin

/-- The header that allows an origin. -/
def originHeader (origin : String) : String × String :=
  ("access-control-allow-origin", origin)

/-- The header that allows cookies. -/
def credentials : String × String :=
  ("access-control-allow-credentials", "true")

/-- The header of answers that differ from origin to origin. -/
def varying : String × String :=
  ("vary", "Origin")

/-- What a request for permission lacks. -/
def lacks (origins : List String) (origin method : String) : List String :=
  (if allows origins origin then [] else ["origin"]) ++
    (if methods.contains method then [] else ["method"])

/-- The headers of an answer to a request for permission. Whatever headers are asked for are
    allowed. -/
def permissionHeaders (origins : List String) (r : Request) (origin : String) : Headers :=
  [varying, ("access-control-allow-methods", Text.joined ", " methods),
    ("access-control-max-age", "600"), credentials] ++
  (if allows origins origin then [originHeader origin] else []) ++
  ((r.header? "Access-Control-Request-Headers").map
    ("access-control-allow-headers", ·)).toList

/-- The answer to a request for permission. -/
def permission (origins : List String) (r : Request) (origin method : String) : Response :=
  let headers := permissionHeaders origins r origin
  match lacks origins origin method with
  | [] => ⟨200, .text "OK", headers⟩
  | missing => ⟨400, .text ("Disallowed CORS " ++ Text.joined ", " missing), headers⟩

/-- The request asks for permission from an origin for a method. -/
def asked? (r : Request) : Option (String × String) := do
  let origin ← r.header? "Origin"
  let method ← r.header? "Access-Control-Request-Method"
  if r.method = "OPTIONS" then some (origin, method) else none

/-- The headers of any other answer to a request of an origin. Where all origins are allowed, an
    answer to a request with cookies names the origin. -/
def headersFor (origins : List String) (r : Request) (origin : String) : Headers :=
  if origins.contains "*" then
    if (r.header? "Cookie").isSome then [originHeader origin, credentials, varying]
    else [originHeader "*", credentials]
  else if origins.contains origin then [credentials, originHeader origin, varying]
  else [credentials]

/-- An answer with the headers for the origin of its request. -/
def allow (origins : List String) (r : Request) (response : Response) : Response :=
  match r.header? "Origin" with
  | none => response
  | some origin => response.with (headersFor origins r origin)

end QueryDesk.Http.Cors

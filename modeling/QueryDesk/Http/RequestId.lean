import QueryDesk.Http.Message

/-!
# Request ids

Every answer names its request. The id that a request brings is kept if it is short and plain;
otherwise the request gets a new one.
-/

namespace QueryDesk.Http.RequestId

/-- The name of the header that holds an id. -/
def headerName : String := "X-Request-ID"

/-- A character that an id may have: an ASCII letter or digit, a point, an underscore or a
    hyphen. -/
def isPlain (c : Char) : Bool :=
  Text.isAsciiDigit c || (65 ≤ c.toNat && c.toNat ≤ 90) || (97 ≤ c.toNat && c.toNat ≤ 122) ||
    c == '.' || c == '_' || c == '-'

/-- A text that may be an id: from 1 to 128 plain characters. -/
def isId (cs : List Char) : Bool :=
  1 ≤ cs.length && cs.length ≤ 128 && cs.all isPlain

/-- The id that a text brings, blanks around it left out. -/
def kept? (text : String) : Option String :=
  let id := Text.trim text.toList
  if isId id then some (String.ofList id) else none

/-- A new id: the 32 hexadecimal digits of a UUID. -/
def fresh (drawn : Uuid) : String :=
  String.ofList drawn.hex

/-- The id of a request; a UUID was drawn in case that it needs a new one. -/
def ofRequest (r : Request) (drawn : Uuid) : String :=
  (kept? ((r.header? headerName).getD "")).getD (fresh drawn)

/-- An answer that names its request and must not be stored. -/
def trace (id : String) (response : Response) : Response :=
  response.with [("cache-control", "no-store"), ("x-request-id", id)]

end QueryDesk.Http.RequestId

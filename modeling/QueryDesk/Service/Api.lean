import QueryDesk.Http.Cors
import QueryDesk.Http.RequestId
import QueryDesk.Service.Codes

/-!
# The public interface

The lists of users and posts, sending and checking codes, two pages about the service itself, and
those that the framework offers about the interface.
Every answer names its request, may not be stored, and tells pages of other origins whether they may
read it.
-/

namespace QueryDesk

open Http

/-- What the public interface offers. -/
inductive Endpoint where
  | users
  | posts
  | sendCode
  | checkCode
  | landing
  | health
  | manual (page : Manual)
  deriving DecidableEq, Repr

/-- The routes of the public interface. -/
def publicRoutes : List (Route Endpoint) := manualRoutes .manual ++ [
  ⟨["GET"], "/api/users", .users⟩,
  ⟨["GET"], "/api/posts", .posts⟩,
  ⟨["POST"], "/api/otp/send", .sendCode⟩,
  ⟨["POST"], "/api/otp/verify", .checkCode⟩,
  ⟨["GET"], "/", .landing⟩,
  ⟨["GET"], "/health", .health⟩]

namespace Service

/-- Reads the payload of a request and handles what was read. -/
def withPayload {α : Type} (s : Service) (r : Request) (fields : Members → Validated α)
    (handle : α → Handled) : Handled :=
  match Payload.read s.settings.payloadDepth r fields with
  | .ok a => handle a
  | .error fault => (Answer.refusal fault, s)

/-- Answers at an endpoint. -/
def answer (s : Service) (draw : Draw) (r : Request) : Endpoint → Handled
  | .users => (s.list .users r, s)
  | .posts => (s.list .posts r, s)
  | .sendCode => s.withPayload r CodeRequest.read (s.sendCode draw)
  | .checkCode => s.withPayload r CodeCheck.read s.checkCode
  | .landing =>
    (Answer.json (.object [("service", s.settings.get .appName), ("status", .text "ok")]), s)
  | .health => (Answer.json (.object [("status", .text "ok")]), s)
  | .manual page => (.ok ⟨200, s.settings.platform.manual page, []⟩, s)

/-- Answers a request at the endpoint to which it leads. -/
def direct (s : Service) (draw : Draw) (r : Request) : Handled :=
  match destination publicRoutes r with
  | .target endpoint => s.answer draw r endpoint
  | other => (.ok (undirected r other), s)

/-- Answers a request of a page of any origin. -/
def receive (s : Service) (draw : Draw) (r : Request) : Handled :=
  match Cors.asked? r with
  | some (origin, method) => (.ok (Cors.permission s.origins r origin method), s)
  | none =>
    let (answer, after) := s.direct draw r
    (answer.map (Cors.allow s.origins r), after)

/-- Answers a request. -/
def handle (s : Service) (draw : Draw) (r : Request) : Handled :=
  let (answer, s) := s.receive draw r
  (answer.map (RequestId.trace (RequestId.ofRequest r draw.requestId)), s)

end Service

end QueryDesk

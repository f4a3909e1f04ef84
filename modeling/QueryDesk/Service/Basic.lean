import QueryDesk.Http.Payload
import QueryDesk.Http.Manual
import QueryDesk.Json.Printer
import QueryDesk.Otp.Send
import QueryDesk.Store.Listing
import QueryDesk.Token.Issue

/-!
# The service

The state of a running service, what a request draws at random, and the ways in which a request can
end without an answer.
-/

namespace QueryDesk

/-- A running service: its settings, the origins that they allowed when it started, its tables, its
    clock in universal time, and what it sent. -/
structure Service where
  settings : Settings
  origins : List String := []
  db : Database := {}
  now : Moment
  outbox : Outbox := {}

/-- A service as it starts, if it does. -/
def Service.start? (settings : Settings) (now : Moment) : Option Service :=
  settings.origins?.map fun origins => { settings, origins, now }

/-- What a request draws at random: an id for itself, and an id and a code for a session. -/
structure Draw where
  requestId : Uuid
  sessionId : Uuid
  code : String
  deriving DecidableEq, Repr

/-- Why a request ends without an answer. -/
inductive Crash where
  | list (fault : ListFault)
  | mail (fault : MailFault)
  /-- A setting that has to be a number is none. -/
  | setting (fault : ConvertFault)
  /-- A code is longer than any secret. -/
  | codeTooLong
  /-- A session would end after the end of the calendar. -/
  | calendar
  /-- A session would have the id of another one. -/
  | idTaken
  | token (fault : Token.IssueFault)
  /-- The answer cannot be written. -/
  | write (fault : Json.WriteFault)

/-- An answer, or why there is none. -/
abbrev Answer := Except Crash Http.Response

/-- A value as an answer, if it can be written. -/
def Answer.json (v : Value) : Answer :=
  match Json.writeFault? v with
  | none => .ok (Http.ok v)
  | some fault => .error (.write fault)

/-- The answer to a request whose payload is not read. It shows each piece of input that has a
    misfit, so it can be written only if these can. -/
def Answer.refusal : Http.Payload.Fault → Answer
  | .issues found =>
    match Json.writeFault? (.list (found.map (·.input.exposed))) with
    | none => .ok (Http.refused found)
    | some fault => .error (.write fault)
  | .unreadable => .ok (Http.detail 400 "There was an error parsing the body")

/-- What answers at a path, together with the state that it leaves. -/
abbrev Handled := Answer × Service

namespace Service

/-- The listing of a resource for a request. -/
def list (s : Service) (resource : Resource) (r : Http.Request) : Answer :=
  match resource.list s.db (Http.Query.params r.query) with
  | .ok listing => Answer.json listing.value
  | .error fault => .error (.list fault)

/-- The table of sessions is exchanged. -/
def withSessions (s : Service) (sessions : List OtpSession) : Service :=
  { s with db := { s.db with otpSessions := sessions } }

end Service

end QueryDesk

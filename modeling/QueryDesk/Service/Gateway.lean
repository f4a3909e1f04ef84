import QueryDesk.Service.Basic

/-!
# The mail gateway

A service of its own that sends mail through a mail server for callers who know a token.
-/

namespace QueryDesk.Gateway

open Http Validation

/-- A request for a mail. -/
structure MailRequest where
  receivers : List String
  letter : Letter
  deriving DecidableEq, Repr

/-- A list of texts. -/
def strings (location : List String) : Value → Validated (List String)
  | .list items => sequence location string items
  | v => refuse .listType location v

/-- Reads a request for a mail. -/
def MailRequest.read (ms : Members) : Validated MailRequest :=
  let texts := both (Payload.required ms "subject" string) (Payload.required ms "html" string)
  let options := both (Payload.optional ms "text" none string?)
    (Payload.optional ms "is_multiple" false bool)
  (both (Payload.optional ms "to" [] strings) (both texts options)).map
  fun (receivers, (subject, html), (text, separately)) =>
    ⟨receivers, { subject, html, text, separately }⟩

/-- The token that callers have to know. -/
def expectedToken (settings : Settings) : Except MailFault String :=
  Smtp.settingText settings .serviceToken

/-- The token that a request brings. -/
def broughtToken (r : Request) : String :=
  Text.strip ((r.header? "X-Internal-Token").getD "")

/-- The answer about a mail. -/
def mailAnswer : Except MailFault Value → Answer
  | .ok result => Answer.json (.object [("status", .text "sent"), ("result", result)])
  | .error (.delivery e) => .ok (detail 502 e.message)
  | .error fault => .error (.mail fault)

/-- Sends the mail that a request asks for, if it brings the token. -/
def sendMail (settings : Settings) (r : Request) (request : MailRequest) (o : Outbox) :
    Answer × Outbox :=
  match expectedToken settings with
  | .error fault => (.error (.mail fault), o)
  | .ok expected =>
    if expected.isEmpty then
      (.ok (detail 500 "INTERNAL_SERVICE_TOKEN is not configured"), o)
    else if broughtToken r ≠ expected then (.ok (detail 401 "Invalid internal token"), o)
    else
      let receivers := Value.list (request.receivers.map .text)
      let (result, o) := Mail.sendViaSmtp settings receivers request.letter o
      (mailAnswer result, o)

/-- What the gateway offers. -/
inductive Endpoint where
  | health
  | send
  | manual (page : Manual)
  deriving DecidableEq, Repr

/-- The routes of the gateway. -/
def routes : List (Route Endpoint) := manualRoutes .manual ++ [
  ⟨["GET"], "/health", .health⟩,
  ⟨["POST"], "/internal/send", .send⟩]

/-- Answers a request. -/
def handle (settings : Settings) (r : Request) (o : Outbox) : Answer × Outbox :=
  match destination routes r with
  | .target .health =>
    (Answer.json (.object [("status", .text "ok"), ("service", .text "email-service")]), o)
  | .target .send =>
    match Payload.read settings.payloadDepth r MailRequest.read with
    | .ok request => sendMail settings r request o
    | .error fault => (Answer.refusal fault, o)
  | .target (.manual page) => (.ok ⟨200, settings.platform.gatewayManual page, []⟩, o)
  | other => (.ok (undirected r other), o)

end QueryDesk.Gateway

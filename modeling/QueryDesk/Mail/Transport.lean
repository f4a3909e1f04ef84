import QueryDesk.Json.Reader
import QueryDesk.Log

/-!
# Transports

Mail leaves by a conversation with a mail server or by requests to a remote service. A transport
says how these answer, and an outbox records what was sent to them.
-/

namespace QueryDesk

/-- A message for a mail server. -/
structure MailMessage where
  sender : String
  recipients : String
  subject : String
  /-- The content of the plain part and of the HTML part. -/
  parts : List (String × String)
  deriving DecidableEq, Repr

/-- A step of a conversation with a mail server. -/
inductive SmtpStep where
  | connect (secure : Bool) (host : String) (portNumber : Int)
  | ehlo
  | starttls
  | login (user password : String)
  | send (message : MailMessage)
  | quit
  deriving DecidableEq, Repr

/-- The name of a kind of step. -/
def SmtpStep.name : SmtpStep → String
  | connect secure _ _ => if secure then "SMTP_SSL" else "SMTP"
  | ehlo => "ehlo"
  | starttls => "starttls"
  | login _ _ => "login"
  | send _ => "send"
  | quit => "quit"

/-- The step hands over a message. -/
def SmtpStep.isSend : SmtpStep → Bool
  | send _ => true
  | _ => false

/-- A mail server: why it breaks off at a step, given the steps of the conversation before it, or
    nothing if it goes on. -/
abbrev SmtpServer := List SmtpStep → SmtpStep → Option String

/-- Where a mail server fails: at the first step of this name, or, for a name such as `send2`, at
    the message of that number. -/
structure SmtpFailure where
  step : String
  reason : String
  deriving DecidableEq, Repr

/-- The failure meets a step that comes after others. -/
def SmtpFailure.meets (f : SmtpFailure) (earlier : List SmtpStep) (step : SmtpStep) : Bool :=
  f.step == step.name ||
    (step.isSend && f.step == s!"send{earlier.countP SmtpStep.isSend + 1}")

/-- The server that fails in one way only. -/
def SmtpFailure.server (f : SmtpFailure) : SmtpServer :=
  fun earlier step => if f.meets earlier step then some f.reason else none

/-- A request to a remote service. -/
structure HttpPost where
  url : String
  headers : List (String × String)
  payload : Value

/-- How a remote service answers. -/
inductive HttpReply where
  | answer (status : Int) (body : String)
  | failure (reason : String)
  deriving DecidableEq, Repr

/-- Something that was sent. -/
inductive Dispatch where
  | smtp (step : SmtpStep)
  | post (request : HttpPost)

/-- How the mail server and the remote services behave, the answers in the order of the requests. -/
structure Transport where
  replies : List HttpReply := []
  smtp : SmtpServer := fun _ _ => none

/-- What was sent, the log, and the transport for what comes next. -/
structure Outbox where
  transport : Transport := {}
  sent : List Dispatch := []
  log : List LogLine := []

namespace Outbox

/-- Records conversation steps. -/
def addSteps (o : Outbox) (steps : List SmtpStep) : Outbox :=
  { o with sent := o.sent ++ steps.map Dispatch.smtp }

/-- Records a log line. -/
def addLog (o : Outbox) (line : LogLine) : Outbox :=
  { o with log := o.log ++ [line] }

/-- Sends a request and takes the next answer; when none is left, the answer is empty. -/
def post (o : Outbox) (request : HttpPost) : HttpReply × Outbox :=
  let o := { o with sent := o.sent ++ [Dispatch.post request] }
  match o.transport.replies with
  | [] => (.answer 200 "", o)
  | reply :: rest => (reply, { o with transport := { o.transport with replies := rest } })

end Outbox

end QueryDesk

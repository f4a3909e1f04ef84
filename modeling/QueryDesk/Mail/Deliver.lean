import QueryDesk.Mail.Remote

/-!
# Delivering mail

`Mail.deliver` hands a letter to the configured provider, `Mail.send` does so without ever reporting
a failed delivery to its caller, and `Mail.sendCode` writes the letter with a one-time code.
-/

namespace QueryDesk.Mail

/-- A mail operation: its answer, and the outbox after it. -/
abbrev Outcome := Except MailFault Value × Outbox

/-- The name of the configured provider. -/
def provider (settings : Settings) : Except MailFault String :=
  match (settings.get .emailProvider).textOr? "dummy" with
  | some s => .ok (Text.lower (Text.strip s))
  | none => .error .tooManyDigits

/-- The providers that send nothing. -/
def mockProviders : List String := ["", "dummy", "mock", "console"]

/-- The answer of a provider that sends nothing. -/
def mocked : Value :=
  .object [("provider", .text "mock_email"), ("status", .text "accepted"),
    ("message", .text "Email provider response mocked"), ("sent", .bool false),
    ("mocked", .bool true)]

/-- The log line of a provider that sends nothing. -/
def mockLine (recipients : List String) (subject : String) : LogLine :=
  ⟨.warning, "[EMAIL MOCK] to=" ++ Text.joined "," recipients ++ " subject=" ++ subject⟩

/-- Delivers through a mail server with the configured account. -/
def viaSmtp (settings : Settings) (letter : Letter) (recipients : List String) (o : Outbox) :
    Outcome :=
  match Smtp.account settings with
  | .error e => (.error e, o)
  | .ok account =>
    let (answer, o) := Smtp.deliver account letter recipients o
    (answer.mapError .delivery, o)

/-- The recipients of a message, of whom there has to be one. -/
def someRecipients (receivers : Value) : Except MailFault (List String) :=
  match Recipients.normalize receivers with
  | .error e => .error (.recipients e)
  | .ok [] => .error (.delivery .noRecipient)
  | .ok recipients => .ok recipients

/-- Sends a letter through a mail server, whichever provider is configured. -/
def sendViaSmtp (settings : Settings) (receivers : Value) (letter : Letter) (o : Outbox) : Outcome :=
  match someRecipients receivers with
  | .error e => (.error e, o)
  | .ok recipients => viaSmtp settings letter recipients o

/-- Hands a letter to a provider by its name. -/
def via (name : String) (settings : Settings) (letter : Letter) (recipients : List String)
    (o : Outbox) : Outcome :=
  if mockProviders.contains name then
    (.ok mocked, o.addLog (mockLine recipients letter.subject))
  else if name = "smtp" then viaSmtp settings letter recipients o
  else if name = "service" || name = "email_service" then
    Remote.viaService settings letter recipients o
  else if name = "sendgrid" then Remote.viaSendgrid settings letter recipients o
  else (.error (.delivery (.unknownProvider name)), o)

/-- Delivers a letter through the configured provider. -/
def deliver (settings : Settings) (receivers : Value) (letter : Letter) (o : Outbox) : Outcome :=
  match someRecipients receivers with
  | .error e => (.error e, o)
  | .ok recipients =>
    match provider settings with
    | .error e => (.error e, o)
    | .ok name => via name settings letter recipients o

/-- The answer of a message that is not sent because the environment is the one for tests. -/
def skipped (name : String) : Value :=
  .object [("provider", .text (if name.isEmpty then "dummy" else name)),
    ("status", .text "skipped"), ("sent", .bool false), ("skipped", .bool true)]

/-- The answer of a message whose delivery failed. -/
def failed (name : String) (e : DeliveryError) : Value :=
  .object [("provider", .text name), ("status", .text "failed"), ("sent", .bool false),
    ("error", .text e.message)]

/-- The log line about a failed delivery. -/
def failureLine (receiver : String) (e : DeliveryError) : LogLine :=
  ⟨.error, s!"Send mail to {receiver} error: {e.message}"⟩

/-- Sends a letter; a failed delivery is logged and answered. -/
def send (settings : Settings) (receivers : Value) (letter : Letter) (o : Outbox) : Outcome :=
  match settings.isTestEnv? with
  | none => (.error .environment, o)
  | some true => ((provider settings).map skipped, o)
  | some false =>
    match deliver settings receivers letter o with
    | (.error (.delivery e), o) =>
      match receivers.text?, provider settings with
      | some text, .ok name => (.ok (failed name e), o.addLog (failureLine text e))
      | none, _ => (.error .tooManyDigits, o)
      | _, .error e => (.error e, o)
    | outcome => outcome

/-- The text that carries a code when no template is at hand. -/
def plainCode (code : String) : String :=
  "Your verification code: " ++ code

/-- The template of a setting; a blank one is replaced by the plain text. -/
def templateOf (settings : Settings) (s : Setting) : Except MailFault String := do
  let template ← Smtp.settingText settings s
  return if template.isEmpty then plainCode "\x7bcode\x7d" else template

/-- The subject and the body with a code: both templates filled, or the plain text for both when one
    of them cannot be filled for a reason that is foreseen. -/
def filled (objects : Template.Objects) (subject body : String) (fields : Template.Fields)
    (code : String) : Except MailFault (String × String) :=
  let both : Except Template.Fault (String × String) := do
    let subject ← Template.fill objects fields subject
    return (subject, ← Template.fill objects fields body)
  match both with
  | .ok texts => .ok texts
  | .error .unfillable => .ok (plainCode code, plainCode code)
  | .error (.unforeseen surprise) => .error (.template surprise)

/-- The letter with a code. -/
def codeLetter (settings : Settings) (code purpose : String) : Except MailFault Letter := do
  let subject ← templateOf settings .otpSubject
  let body ← templateOf settings .otpBody
  let fields := [("code", code), ("purpose", purpose)]
  let (subject, html) ← filled settings.platform.objects subject body fields code
  return { subject, html, text := some (plainCode code) }

/-- Sends a code to an address. -/
def sendCode (settings : Settings) (email code purpose : String) (o : Outbox) : Outcome :=
  match codeLetter settings code purpose with
  | .error e => (.error e, o)
  | .ok letter => deliver settings (.text email) letter o

end QueryDesk.Mail

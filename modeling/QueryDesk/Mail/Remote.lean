import QueryDesk.Mail.Smtp

/-!
# Delivery through remote services

A letter is posted to a mail service of our own or to SendGrid. An answer with an error status is a
refusal; its detail is taken from the body if the body has any.
-/

namespace QueryDesk.Remote

/-- The body of an answer: empty or unreadable bodies count as empty objects. A byte order mark may
    stand before it. -/
def readBody (depth : Nat) (body : String) : Value :=
  match body.toList with
  | [] => .object []
  | c :: rest =>
    match Json.readChars depth (if c.toNat = 0xFEFF then rest else c :: rest) with
    | .ok v => v
    | .error _ => .object []

/-- The detail of a refusal: the member `detail`, else the member `errors`, else the body, else the
    status; the first that counts as present. -/
def refusalDetail (status : Int) (body : String) (members : Members) : Option String :=
  let candidates :=
    [(members.get? "detail").getD .null, (members.get? "errors").getD .null, .text body]
  ((candidates.find? Value.isTruthy).getD (.int status)).text?

/-- Judges an answer: its status and body, or the refusal. -/
def judge (depth : Nat) (service : String) (status : Int) (body : String) :
    Except MailFault (Int × Value) :=
  let read := readBody depth body
  if status < 400 then .ok (status, read)
  else match read with
    | .object members => match refusalDetail status body members with
      | some detail => .error (.delivery (.refused service detail))
      | none => .error .tooManyDigits
    | _ => .error .errorBody

/-- Posts a request to a service. -/
def post (depth : Nat) (service : String) (request : HttpPost) (o : Outbox) :
    Except MailFault (Int × Value) × Outbox :=
  match o.post request with
  | (.failure reason, o) => (.error (.delivery (.requestFailed service reason)), o)
  | (.answer status body, o) => (judge depth service status body, o)

/-- The kind of content that is posted. -/
def jsonContent : String × String :=
  ("Content-Type", "application/json")

/-- A text without the slashes at its end. -/
def dropSlashes (s : String) : String :=
  String.ofList (Text.dropWhileEnd (· == '/') s.toList)

/-- A setting that a service needs. -/
def required (settings : Settings) (s : Setting) (name : String) : Except MailFault String := do
  let text ← Smtp.settingText settings s
  if text.isEmpty then .error (.delivery (.missingSetting name)) else return text

/-- A list of texts. -/
def texts (items : List String) : Value :=
  .list (items.map .text)

/-- The address and the token of our own mail service; a missing address is reported first. -/
def serviceAccess (settings : Settings) : Except MailFault (String × String) := do
  let url := dropSlashes (← Smtp.settingText settings .emailServiceUrl)
  let token ← Smtp.settingText settings .serviceToken
  if url.isEmpty then .error (.delivery (.missingSetting "EMAIL_SERVICE_URL"))
  else if token.isEmpty then .error (.delivery (.missingSetting "INTERNAL_SERVICE_TOKEN"))
  else return (url, token)

/-- The request that hands a letter to our own mail service. -/
def serviceRequest (url token sender : String) (letter : Letter) (recipients : List String) :
    HttpPost where
  url := url ++ "/internal/send"
  headers := [("X-Internal-Token", token), jsonContent]
  payload := .object [("to", texts recipients), ("from", .text sender),
    ("subject", .text letter.subject), ("html", .text letter.html),
    ("text", (letter.text.map .text).getD .null), ("is_multiple", .bool letter.separately)]

/-- Delivers a letter through our own mail service. -/
def viaService (settings : Settings) (letter : Letter) (recipients : List String) (o : Outbox) :
    Except MailFault Value × Outbox :=
  let prepared : Except MailFault HttpPost := do
    let (url, token) ← serviceAccess settings
    return serviceRequest url token (← Smtp.senderOf settings) letter recipients
  match prepared with
  | .error e => (.error e, o)
  | .ok request =>
    let (answer, o) := post settings.replyDepth "email-service" request o
    (answer.map fun (_, body) =>
      .object [("provider", .text "email-service"), ("status", .text "accepted"),
        ("message", .text "Email sent through email-service"), ("sent", .bool true),
        ("response", body)], o)

/-- An address as SendGrid takes it. -/
def address (email : String) : Value :=
  .object [("email", .text email)]

/-- The recipients as SendGrid takes them, one object for each batch. -/
def personalizations (batches : List (List String)) : Value :=
  .list (batches.map fun batch => .object [("to", .list (batch.map address))])

/-- The content as SendGrid takes it; an empty plain text is left out. -/
def contents (letter : Letter) : Value :=
  let content (kind text : String) : Value := .object [("type", .text kind), ("value", .text text)]
  let text := letter.text.getD ""
  .list ((if text.isEmpty then [] else [content "text/plain" text]) ++
    [content "text/html" letter.html])

/-- The request that hands a letter to SendGrid. -/
def sendgridRequest (url key sender : String) (letter : Letter) (recipients : List String) :
    HttpPost where
  url := url
  headers := [("Authorization", "Bearer " ++ key), jsonContent]
  payload := .object
    [("personalizations", personalizations (Recipients.batches letter.separately recipients)),
      ("from", address sender), ("subject", .text letter.subject), ("content", contents letter)]

/-- Delivers a letter through SendGrid. -/
def viaSendgrid (settings : Settings) (letter : Letter) (recipients : List String) (o : Outbox) :
    Except MailFault Value × Outbox :=
  let prepared : Except MailFault HttpPost := do
    let key ← required settings .sendgridKey "SENDGRID_API_KEY"
    match (settings.get .sendgridUrl).text? with
    | none => .error .tooManyDigits
    | some url => return sendgridRequest url key (← Smtp.senderOf settings) letter recipients
  match prepared with
  | .error e => (.error e, o)
  | .ok request =>
    let (answer, o) := post settings.replyDepth "sendgrid" request o
    (answer.map fun (status, _) =>
      .object [("provider", .text "sendgrid"), ("status", .text "accepted"),
        ("message", .text "Email accepted by SendGrid"), ("sent", .bool true),
        ("status_code", .int status)], o)

end QueryDesk.Remote

import QueryDesk.Mail.AddressList
import QueryDesk.Mail.Fault
import QueryDesk.Mail.Transport
import QueryDesk.Settings
import QueryDesk.Text.Segments

/-!
# Delivery through a mail server

A delivery is one conversation: connecting, greeting, securing, logging in, and one message for each
batch of recipients. It ends at the first step that fails; a connection that was made is closed.
-/

namespace QueryDesk

/-- What a message says. -/
structure Letter where
  subject : String
  html : String
  text : Option String := none
  /-- Every recipient gets a message of their own. -/
  separately : Bool := false
  deriving DecidableEq, Repr

/-- How a mail server is reached. -/
structure SmtpAccount where
  host : String
  portNumber : Int
  user : String
  password : String
  sender : String
  useTls : Bool
  useSsl : Bool
  deriving DecidableEq, Repr

namespace Smtp

/-- A character that ends a line of a header. -/
def isLineEnd (c : Char) : Bool :=
  let n := c.toNat
  (10 ≤ n && n ≤ 13) || (28 ≤ n && n ≤ 30) || n == 0x85 || n == 0x2028 || n == 0x2029

/-- The text goes on after the end of its first line. -/
def hasSecondLine (cs : List Char) : Bool :=
  match cs.dropWhile (!isLineEnd ·) with
  | '\r' :: '\n' :: rest => !rest.isEmpty
  | _ :: rest => !rest.isEmpty
  | [] => false

/-- The text of a part: lines end with a line feed, and so does the last one. `pending` says that
    the current line has begun. -/
def partLines : (pending : Bool) → List Char → List Char
  | pending, [] => if pending then ['\n'] else []
  | _, '\r' :: '\n' :: rest => '\n' :: partLines false rest
  | _, c :: rest =>
    if c = '\n' || c = '\r' then '\n' :: partLines false rest else c :: partLines true rest

/-- The content of a part; an empty text is one empty line. -/
def partContent (s : String) : String :=
  if s.isEmpty then "\n" else String.ofList (partLines false s.toList)

/-- A value as its header shows it, unless it has a second line. -/
def header (normalize : String → Except HeaderFault String) (s : String) :
    Except HeaderFault String :=
  if hasSecondLine s.toList then .error .secondLine else normalize s

/-- The message for a batch of recipients, unless one of its headers is refused. -/
def message (sender : String) (letter : Letter) (batch : List String) :
    Except HeaderFault MailMessage := do
  let sender ← header Address.normalize sender
  let recipients ← header Address.normalize (Text.joined ", " batch)
  let subject ← header (.ok ∘ HeaderText.read) letter.subject
  return ⟨sender, recipients, subject,
    [("text/plain", partContent (letter.text.getD "")), ("text/html", partContent letter.html)]⟩

/-- What a conversation does next: a step, or a message that cannot be written. -/
abbrev Action := Except HeaderFault SmtpStep

/-- What follows a connection. -/
def script (account : SmtpAccount) (letter : Letter) (batches : List (List String)) :
    List Action :=
  [.ok .ehlo] ++
    (if account.useTls then [.ok .starttls, .ok .ehlo] else []) ++
    (if account.user.isEmpty then [] else [.ok (.login account.user account.password)]) ++
    batches.map fun batch => (message account.sender letter batch).map .send

/-- Runs actions after earlier steps: the steps that were taken, and the reason why they broke
    off. -/
def converse (server : SmtpServer) (earlier : List SmtpStep) :
    List Action → List SmtpStep × Option String
  | [] => ([], none)
  | .error fault :: _ => ([], some fault.reason)
  | .ok step :: rest =>
    match server earlier step with
    | some reason => ([step], some reason)
    | none =>
      let (steps, reason?) := converse server (earlier ++ [step]) rest
      (step :: steps, reason?)

/-- A whole conversation: a connection, actions, and the end of the connection. -/
def session (server : SmtpServer) (connection : SmtpStep) (actions : List Action) :
    List SmtpStep × Option String :=
  match converse server [] [.ok connection] with
  | (steps, some reason) => (steps, some reason)
  | (_, none) =>
    let (steps, reason?) := converse server [connection] actions
    let (closing, closingReason?) := converse server (connection :: steps) [.ok .quit]
    (connection :: steps ++ closing, closingReason?.or reason?)

/-- The text of a setting without blanks around it; a setting that counts as absent has none. -/
def settingText (settings : Settings) (s : Setting) : Except MailFault String :=
  match (settings.get s).textOr? "" with
  | some text => .ok (Text.strip text)
  | none => .error .tooManyDigits

/-- The address that messages come from. -/
def senderOf (settings : Settings) : Except MailFault String := do
  let sender ← settingText settings .emailFrom
  return if sender.isEmpty then "noreply@example.com" else sender

/-- The account that the settings describe. -/
def account (settings : Settings) : Except MailFault SmtpAccount := do
  let host ← settingText settings .smtpHost
  let configured := settings.get .smtpPort
  let portNumber ←
    ((if configured.isTruthy then configured else .int 0).toInt).mapError .portNumber
  let user ← settingText settings .smtpUser
  let password ← settingText settings .smtpPassword
  let sender ← senderOf settings
  return { host, portNumber, user, password, sender,
           useTls := (settings.get .smtpTls).isTruthy, useSsl := (settings.get .smtpSsl).isTruthy }

/-- What a delivery answers. -/
def accepted (messages : Nat) : Value :=
  .object [("provider", .text "smtp"), ("status", .text "accepted"),
    ("message", .text "Email sent"), ("sent", .bool true), ("messages", .int messages)]

/-- Delivers a letter through an account. -/
def deliver (account : SmtpAccount) (letter : Letter) (recipients : List String) (o : Outbox) :
    Except DeliveryError Value × Outbox :=
  if account.host.isEmpty || account.portNumber = 0 then (.error .smtpUnconfigured, o)
  else if account.useTls && account.useSsl then (.error .smtpModes, o)
  else
    let batches := Recipients.batches letter.separately recipients
    let (steps, reason?) := session o.transport.smtp
      (.connect account.useSsl account.host account.portNumber) (script account letter batches)
    let o := o.addSteps steps
    match reason? with
    | some reason => (.error (.smtpFailed reason), o)
    | none => (.ok (accepted batches.length), o)

end Smtp

end QueryDesk

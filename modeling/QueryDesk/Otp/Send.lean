import QueryDesk.Mail.Deliver
import QueryDesk.Otp.Session

/-!
# Sending codes

A code goes out by mail, and then its session takes the place of the earlier ones of its key. When
anything fails on the way, the sessions stay as they were.
-/

namespace QueryDesk.Otp

/-- Why no session is opened for a code. -/
inductive SendFault where
  | key (fault : OtpKey.Fault)
  | mail (fault : MailFault)
  /-- The lifetime in the settings is no number. -/
  | lifetime (fault : ConvertFault)
  /-- The code is longer than any secret. -/
  | codeTooLong
  /-- The session would end after the end of the calendar. -/
  | calendar
  /-- A session of another key has the id of the new one. -/
  | idTaken

/-- The session of a code that is sent now, in universal time. -/
def openSession (id : Uuid) (key : OtpKey) (code : String) (now : Moment) (minutes : Int) :
    Except SendFault OtpSession :=
  if Secret.maxLength < code.length then .error .codeTooLong
  else match expiry? now minutes with
    | none => .error .calendar
    | some expiresAt =>
      .ok { id, purpose := key.purpose, email := key.email, code,
            createdAt := now.unzoned, updatedAt := now.unzoned,
            expiresAt := expiresAt.unzoned }

/-- A code that was sent: its key, the minutes for which it holds, and what the mail provider
    answered. -/
structure Receipt where
  key : OtpKey
  minutes : Int
  delivery : Value

/-- A session that stays when a code is sent for a key has this id. -/
def isTaken (key : OtpKey) (id : Uuid) (sessions : List OtpSession) : Bool :=
  sessions.any fun s => !hasKey key s && s.id == id

/-- The receipt for a code whose mail was delivered, and the sessions with its own. -/
def settleSend (settings : Settings) (now : Moment) (id : Uuid) (code : String) (key : OtpKey)
    (delivery : Value) (sessions : List OtpSession) :
    Except SendFault (Receipt × List OtpSession) := do
  let minutes ← (lifetimeMinutes (settings.get .otpTtlMinutes)).mapError .lifetime
  let session ← openSession id key code now minutes
  if isTaken key id sessions then throw .idTaken
  return (⟨key, minutes, delivery⟩, replace key session sessions)

/-- Sends a code for a purpose to an address, and opens a session of an id for it. -/
def send (settings : Settings) (now : Moment) (id : Uuid) (code purpose email : String)
    (sessions : List OtpSession) (o : Outbox) :
    Except SendFault (Receipt × List OtpSession) × Outbox :=
  match OtpKey.ofTexts purpose email with
  | .error e => (.error (.key e), o)
  | .ok key =>
    match Mail.sendCode settings key.email code key.purpose o with
    | (.error e, o) => (.error (.mail e), o)
    | (.ok delivery, o) => (settleSend settings now id code key delivery sessions, o)

end QueryDesk.Otp

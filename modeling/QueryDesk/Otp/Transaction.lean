import QueryDesk.Otp.Send

/-!
# Sending codes step by step

The sessions are written in a transaction. What a step writes is seen by the steps after it, and it
is stored when the transaction is committed; when the transaction is closed without that, it is
gone. Sending stops where a step fails, and it can be broken off from outside before any step.
-/

namespace QueryDesk.Otp

/-- A transaction on the table of sessions. -/
structure Transaction where
  /-- The sessions that stay when the transaction is closed. -/
  stored : List OtpSession
  /-- The sessions that the transaction sees. -/
  pending : List OtpSession

/-- The steps of sending a code, in their order. -/
inductive SendStep where
  | key
  | mail
  | lifetime
  | erase
  | opening
  | insert
  | commit
  deriving DecidableEq, Repr

/-- Why sending stops. -/
inductive Stop where
  | fault (fault : SendFault)
  /-- It is broken off from outside when it comes to a step. -/
  | broken (step : SendStep)

/-- What sending works on. -/
structure Desk where
  outbox : Outbox
  table : Transaction

namespace Desk

/-- A desk with a transaction that has just begun. -/
def start (sessions : List OtpSession) (outbox : Outbox) : Desk :=
  ⟨outbox, ⟨sessions, sessions⟩⟩

/-- The sessions after the transaction is closed. -/
def close (desk : Desk) : List OtpSession :=
  desk.table.stored

/-- The sessions that the transaction sees are exchanged. -/
def write (desk : Desk) (sessions : List OtpSession) : Desk :=
  { desk with table := { desk.table with pending := sessions } }

/-- What the transaction sees is stored. -/
def commit (desk : Desk) : Desk :=
  { desk with table := { desk.table with stored := desk.table.pending } }

end Desk

/-- Steps of sending a code. -/
abbrev Sending := ExceptT Stop (StateM Desk)

namespace Sending

/-- Comes to a step, if sending is not broken off there. -/
def reach (broken : SendStep → Bool) (step : SendStep) : Sending Unit :=
  if broken step then throw (.broken step) else pure ()

/-- Goes on with a result. -/
def take {α : Type} : Except SendFault α → Sending α
  | .ok a => pure a
  | .error fault => throw (.fault fault)

/-- Mails a code. -/
def mail (settings : Settings) (key : OtpKey) (code : String) : Sending Value := do
  let desk ← get
  let (answer, outbox) := Mail.sendCode settings key.email code key.purpose desk.outbox
  set { desk with outbox }
  take (answer.mapError .mail)

/-- Erases the sessions of a key. -/
def erase (key : OtpKey) : Sending Unit :=
  modify fun desk => desk.write (desk.table.pending.filter (!hasKey key ·))

/-- Inserts a session, whose id no other may have. -/
def insert (session : OtpSession) : Sending Unit := do
  let desk ← get
  if desk.table.pending.any (·.id == session.id) then throw (.fault .idTaken)
  else set (desk.write (desk.table.pending ++ [session]))

/-- Commits what was written. -/
def commit : Sending Unit :=
  modify Desk.commit

end Sending

open Sending in
/-- Sends a code step by step. -/
def sendSteps (broken : SendStep → Bool) (settings : Settings) (now : Moment) (id : Uuid)
    (code purpose email : String) : Sending Receipt := do
  reach broken .key
  let key ← take ((OtpKey.ofTexts purpose email).mapError .key)
  reach broken .mail
  let delivery ← mail settings key code
  reach broken .lifetime
  let minutes ← take ((lifetimeMinutes (settings.get .otpTtlMinutes)).mapError .lifetime)
  reach broken .erase
  erase key
  reach broken .opening
  let session ← take (openSession id key code now minutes)
  reach broken .insert
  insert session
  reach broken .commit
  commit
  return ⟨key, minutes, delivery⟩

end QueryDesk.Otp

import QueryDesk.Otp.Transaction
import QueryDesk.Token.Issue

/-!
# Checking codes step by step

A check writes to the sessions at most once, and commits what it has written: it erases a session
that is over or whose code is right, or it counts a wrong code. A token for a right code is issued
after that. Checking stops where a step fails, and it can be broken off from outside before any
step.
-/

namespace QueryDesk.Otp

/-- The steps of checking a code, in their order. -/
inductive CheckStep where
  | key
  | find
  | clock
  | limit
  | compare
  | write
  | commit
  | token
  deriving DecidableEq, Repr

/-- Why checking stops without a token. -/
inductive CheckStop where
  | key (fault : OtpKey.Fault)
  /-- The key has no session. -/
  | absent
  /-- The session is over. -/
  | expired
  /-- The greatest number of wrong codes is no number. -/
  | unlimited (fault : ConvertFault)
  /-- Too many wrong codes were counted. -/
  | locked
  /-- The code is longer than any secret. -/
  | tooLong
  | wrong
  | token (fault : Token.IssueFault)
  /-- It is broken off from outside when it comes to a step. -/
  | broken (step : CheckStep)
  deriving DecidableEq, Repr

/-- A token that was issued for a key. -/
structure Grant where
  key : OtpKey
  token : String
  deriving DecidableEq, Repr

/-- Steps of checking a code. -/
abbrev Checking := ExceptT CheckStop (StateM Transaction)

namespace Checking

/-- Comes to a step, if checking is not broken off there. -/
def reach (broken : CheckStep → Bool) (step : CheckStep) : Checking Unit :=
  if broken step then throw (.broken step) else pure ()

/-- Goes on with a result. -/
def take {α : Type} : Except CheckStop α → Checking α
  | .ok a => pure a
  | .error stop => throw stop

/-- Changes the sessions and commits the change. -/
def record (broken : CheckStep → Bool) (change : List OtpSession → List OtpSession) :
    Checking Unit := do
  reach broken .write
  modify fun table => { table with pending := change table.pending }
  reach broken .commit
  modify fun table => { table with stored := table.pending }

end Checking

/-- Compares a code with the one that was sent; only a code that is not empty is compared as a
    secret. -/
def compareCode (code sent : String) : Except CheckStop Bool :=
  if code.isEmpty then .ok false
  else if Secret.maxLength < code.length then .error .tooLong
  else .ok (Secret.alike code sent)

open Checking in
/-- Checks a code step by step. -/
def checkSteps (broken : CheckStep → Bool) (settings : Settings) (now : Moment)
    (purpose email code : String) : Checking Grant := do
  reach broken .key
  let key ← take ((OtpKey.ofTexts purpose email).mapError .key)
  reach broken .find
  let table ← get
  match current? key table.pending with
  | none => throw .absent
  | some row =>
    reach broken .clock
    if row.expiresAt.micros ≤ now.universal then
      record broken (remove row)
      throw .expired
    else
      reach broken .limit
      let limit ← take ((settings.get .otpMaxAttempts).toInt.mapError .unlimited)
      if limit ≤ row.attempts then throw .locked
      else
        reach broken .compare
        let same ← take (compareCode (Text.strip code) row.code)
        if same then
          record broken (remove row)
          reach broken .token
          let token ← take ((Token.issue settings key.email key.purpose now).mapError .token)
          return ⟨key, token⟩
        else
          record broken (countWrong now.universal row)
          throw .wrong

end QueryDesk.Otp

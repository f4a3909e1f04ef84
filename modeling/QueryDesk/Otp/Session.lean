import QueryDesk.Otp.Key
import QueryDesk.Secret
import QueryDesk.Store.Row

/-!
# Sessions

Sending a code replaces the sessions of its key by one. Checking a code looks at the latest session
of the key: it ends the session when the code is right or the session is over, and counts a wrong
code.
-/

namespace QueryDesk.Otp

/-- The session is of a key. -/
def hasKey (key : OtpKey) (s : OtpSession) : Bool :=
  s.purpose == key.purpose && s.email == key.email

/-- Sessions after a code was sent for a key. -/
def replace (key : OtpKey) (session : OtpSession) (sessions : List OtpSession) : List OtpSession :=
  sessions.filter (!hasKey key ·) ++ [session]

/-- The session that was made last; of those made at the same time, the first. -/
def latest? : List OtpSession → Option OtpSession
  | [] => none
  | s :: rest =>
    match latest? rest with
    | some t => if s.createdAt.micros < t.createdAt.micros then some t else some s
    | none => some s

/-- The latest session of a key. -/
def current? (key : OtpKey) (sessions : List OtpSession) : Option OtpSession :=
  latest? (sessions.filter (hasKey key))

/-- Sessions without one of them. -/
def remove (session : OtpSession) (sessions : List OtpSession) : List OtpSession :=
  sessions.filter (·.id != session.id)

/-- A session with one more wrong code, at a time in microseconds of universal time. -/
def withWrong (now : Int) (s : OtpSession) : OtpSession :=
  { s with attempts := s.attempts + 1, updatedAt := ⟨now, none⟩ }

/-- Sessions with one more wrong code counted for one of them. -/
def countWrong (now : Int) (session : OtpSession) (sessions : List OtpSession) : List OtpSession :=
  sessions.map fun s => if s.id = session.id then withWrong now s else s

/-- How checking a code ends. -/
inductive Verdict where
  /-- The key has no session. -/
  | absent
  /-- The session is over. -/
  | expired
  /-- Too many wrong codes were counted. -/
  | locked
  /-- The greatest number of wrong codes is no number. -/
  | unlimited (fault : ConvertFault)
  /-- The code is longer than any secret. -/
  | tooLong
  | wrong
  | accepted
  deriving DecidableEq, Repr

/-- Judges a code against a session at a time in microseconds of universal time. `accepts submitted
    sent` says whether a code is the one that was sent. -/
def judge (accepts : String → String → Bool) (maxAttempts : Except ConvertFault Int) (now : Int)
    (code : String) (s : OtpSession) : Verdict :=
  if s.expiresAt.micros ≤ now then .expired
  else match maxAttempts with
    | .error fault => .unlimited fault
    | .ok limit =>
      if limit ≤ s.attempts then .locked
      else if code.isEmpty then .wrong
      else if Secret.maxLength < code.length then .tooLong
      else if accepts code s.code then .accepted
      else .wrong

/-- Sessions after a code was judged against one of them. -/
def settle (now : Int) (session : OtpSession) (sessions : List OtpSession) :
    Verdict → List OtpSession
  | .expired | .accepted => remove session sessions
  | .wrong => countWrong now session sessions
  | .absent | .locked | .unlimited _ | .tooLong => sessions

/-- Checks a code for a key, blanks around it left out. -/
def verify (accepts : String → String → Bool) (maxAttempts : Except ConvertFault Int) (now : Int)
    (key : OtpKey) (code : String) (sessions : List OtpSession) : Verdict × List OtpSession :=
  match current? key sessions with
  | none => (.absent, sessions)
  | some session =>
    let verdict := judge accepts maxAttempts now (Text.strip code) session
    (verdict, settle now session sessions verdict)

/-- The lifetime of a session in minutes: the configured one, but at least one minute. -/
def lifetimeMinutes : Value → Except ConvertFault Int
  | .int n => .ok (max n 1)
  | .bool _ => .ok 1
  | .float x =>
    (Value.float (if Binary64.lt x (Binary64.ofInt 1) then Binary64.ofInt 1 else x)).toInt
  | .decimal (.finite negative coefficient exponent) =>
    (Value.decimalToInt (.finite negative coefficient exponent)).map (max · 1)
  | .decimal d => Value.decimalToInt d
  | _ => .error .kind

/-- The moment at which a session of so many minutes is over, unless it leaves the calendar. -/
def expiry? (now : Moment) (minutes : Int) : Option Moment :=
  now.add? (minutes * 60000000)

end QueryDesk.Otp

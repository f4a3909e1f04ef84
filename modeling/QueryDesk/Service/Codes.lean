import QueryDesk.Service.Basic

/-!
# Requests about codes

One request sends a code to an address, another one checks a code and answers a token.
-/

namespace QueryDesk

open Http Validation

/-- A request for a code. -/
structure CodeRequest where
  email : String
  purpose : String
  deriving DecidableEq, Repr

/-- A code to be checked. -/
structure CodeCheck where
  email : String
  purpose : String
  code : String
  deriving DecidableEq, Repr

/-- Reads a request for a code. -/
def CodeRequest.read (ms : Members) : Validated CodeRequest :=
  (both (Payload.required ms "email" string)
    (Payload.optional ms "purpose" OtpKey.defaultPurpose string)).map
  fun (email, purpose) => ⟨email, purpose⟩

/-- Reads a code to be checked. -/
def CodeCheck.read (ms : Members) : Validated CodeCheck :=
  (both (CodeRequest.read ms) (Payload.required ms "code" string)).map
  fun (request, code) => ⟨request.email, request.purpose, code⟩

namespace Service

/-- The answer about a code that was sent. -/
def sentValue (receipt : Otp.Receipt) : Value :=
  .object [("status", .text "sent"), ("purpose", .text receipt.key.purpose),
    ("ttl_seconds", .int (receipt.minutes * 60)), ("delivery_response", receipt.delivery)]

/-- The answer about a code that was not sent. -/
def unsent : Otp.SendFault → Answer
  | .key fault => .ok (detail 400 fault.message)
  | .mail (.delivery e) => .ok (detail 502 ("Could not send OTP email: " ++ e.message))
  | .mail fault => .error (.mail fault)
  | .lifetime fault => .error (.setting fault)
  | .codeTooLong => .error .codeTooLong
  | .calendar => .error .calendar
  | .idTaken => .error .idTaken

/-- Sends a code. -/
def sendCode (s : Service) (draw : Draw) (request : CodeRequest) : Handled :=
  match Otp.send s.settings s.now draw.sessionId draw.code request.purpose request.email
      s.db.otpSessions s.outbox with
  | (.ok (receipt, sessions), outbox) =>
    (Answer.json (sentValue receipt).exposed, { s.withSessions sessions with outbox })
  | (.error fault, outbox) => (unsent fault, { s with outbox })

/-- The answer about a code that was accepted: a token for its address and purpose. -/
def tokenAnswer (s : Service) (key : OtpKey) : Answer :=
  match Token.issue s.settings key.email key.purpose s.now with
  | .ok token => Answer.json <| .object [("status", .text "verified"),
      ("purpose", .text key.purpose), ("access_token", .text token),
      ("token_type", .text "bearer")]
  | .error fault => .error (.token fault)

/-- The answer about a code that was judged. -/
def judged (s : Service) (key : OtpKey) : Otp.Verdict → Answer
  | .absent | .expired => .ok (detail 400 "OTP not found or expired")
  | .locked => .ok (detail 429 "Too many attempts")
  | .wrong => .ok (detail 400 "Invalid OTP code")
  | .unlimited fault => .error (.setting fault)
  | .tooLong => .error .codeTooLong
  | .accepted => s.tokenAnswer key

/-- Checks a code. -/
def checkCode (s : Service) (check : CodeCheck) : Handled :=
  match OtpKey.ofTexts check.purpose check.email with
  | .error fault => (.ok (detail 400 fault.message), s)
  | .ok key =>
    let (verdict, sessions) := Otp.verify Secret.alike (s.settings.get .otpMaxAttempts).toInt
      s.now.universal key check.code s.db.otpSessions
    (s.judged key verdict, s.withSessions sessions)

end Service

end QueryDesk

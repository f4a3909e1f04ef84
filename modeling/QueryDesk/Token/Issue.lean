import QueryDesk.Settings
import QueryDesk.Token.Key
import QueryDesk.Token.Claims

/-!
# Issuing tokens

A token says for whom and for what it is issued, when, and until when it holds.
-/

namespace QueryDesk.Token

/-- Why a token cannot be issued. -/
inductive IssueFault where
  /-- The lifetime in the settings is no number of minutes. -/
  | lifetime (fault : ConvertFault)
  /-- The token would expire after the end of the calendar. -/
  | calendar
  /-- The secret in the settings is no key. -/
  | secret
  deriving DecidableEq, Repr

/-- The header of every token. -/
def header : Value :=
  .object [("alg", .text "HS256"), ("typ", .text "JWT")]

/-- The claims of a token, its times in whole seconds. -/
def claims (subject purpose : String) (issued expires : Int) : Value :=
  .object [("sub", .text subject), ("purpose", .text purpose), ("iat", .int issued),
    ("exp", .int expires)]

/-- A value in compact JSON and base64. -/
def segment (v : Value) : List Char :=
  Base64.encodeUrl (Text.Utf8.encode (Json.compactChars v))

/-- Claims signed under a key. -/
def signed (key : List UInt8) (claims : Value) : String :=
  let body := segment header ++ '.' :: segment claims
  String.ofList (body ++ '.' :: Base64.encodeUrl (Hmac.sign key (Text.Utf8.encode body)))

/-- The whole seconds since the start of 1970, a fraction being cut off toward zero. The time is
    taken as a double, so far from 1970 the last microseconds may be lost. -/
def timestamp (m : Moment) : Int :=
  let micros := m.sinceEpoch
  ((Binary64.ofRatio (micros < 0) micros.natAbs 1000000).truncate?).getD 0

/-- A number of minutes in microseconds; of a double, half a microsecond goes to the even one. -/
def minutes : Value → Except ConvertFault Int
  | .int n => .ok (n * 60000000)
  | .bool b => .ok (if b then 60000000 else 0)
  | .float x => match x with
    | .nan => .error .content
    | .infinite _ => .error .range
    | .finite negative units =>
      .ok (Numeral.signed negative (Binary64.roundDiv (units * 60000000) Binary64.one))
  | _ => .error .kind

/-- A span of time that can be added to moments: less than a thousand million days. -/
def isSpan (micros : Int) : Bool :=
  -999999999 * Moment.day ≤ micros && micros < 1000000000 * Moment.day

/-- The lifetime of a token in microseconds: the one that is asked for, else the one that the
    settings give. -/
def lifetime (settings : Settings) (asked : Option Int) : Except IssueFault Int := do
  let micros ← match asked with
    | some micros => pure micros
    | none => (minutes (settings.get .tokenTtlMinutes)).mapError .lifetime
  if isSpan micros then return micros else throw (.lifetime .range)

/-- The key that the settings give. -/
def signingKey (settings : Settings) : Except IssueFault (List UInt8) :=
  match settings.get .tokenSecret with
  | .text s => match secretBytes? s with
    | some bytes => .ok bytes
    | none => .error .secret
  | .object members => match objectKey? members with
    | some bytes => .ok bytes
    | none => .error .secret
  | _ => .error .secret

/-- Issues a token that holds for a number of microseconds, by default for the lifetime that the
    settings give. -/
def issue (settings : Settings) (subject purpose : String) (now : Moment)
    (span : Option Int := none) : Except IssueFault String := do
  let micros ← lifetime settings span
  match now.add? micros with
  | none => throw .calendar
  | some expires =>
    let key ← signingKey settings
    return signed key (claims subject purpose (timestamp now) (timestamp expires))

end QueryDesk.Token

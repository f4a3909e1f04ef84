import QueryDesk.Json.Printer
import QueryDesk.Json.Reader
import QueryDesk.Value.Convert

/-!
# Claims

The claims of a token are the members of an object. The times among them are whole seconds since the
start of 1970; a claim that says when a token begins or ceases to hold has to agree with the clock.
-/

namespace QueryDesk.Token

/-- A claim that is a time. -/
inductive TimeClaim where
  | issuedAt
  | notBefore
  | expiration
  deriving DecidableEq, Repr

/-- The key of a time claim. -/
def TimeClaim.key : TimeClaim → String
  | issuedAt => "iat"
  | notBefore => "nbf"
  | expiration => "exp"

/-- The name of a time claim. -/
def TimeClaim.title : TimeClaim → String
  | issuedAt => "Issued At claim"
  | notBefore => "Not Before claim"
  | expiration => "Expiration Time claim"

/-- Why claims are refused. -/
inductive ClaimFault where
  | expired
  | notYetValid
  | notInteger (claim : TimeClaim)
  /-- A time is of a kind that is never a number, or it is out of range. -/
  | time (fault : ConvertFault)
  | audienceFormat
  | audience
  | subject
  | tokenId
  | accessHash
  deriving DecidableEq, Repr

/-- The message about refused claims. -/
def ClaimFault.message : ClaimFault → String
  | expired => "Signature has expired."
  | notYetValid => "The token is not yet valid (nbf)"
  | notInteger claim => s!"{claim.title} ({claim.key}) must be an integer."
  | time _ => ""
  | audienceFormat => "Invalid claim format in token"
  | audience => "Invalid audience"
  | subject => "Subject must be a string."
  | tokenId => "JWT ID must be a string."
  | accessHash => "No access_token provided to compare against at_hash claim."

/-- The seconds of a time claim; none if the claim is not there. -/
def seconds? (claims : Members) (claim : TimeClaim) : Except ClaimFault (Option Int) :=
  match claims.get? claim.key with
  | none => .ok none
  | some v => match v.toInt with
    | .ok n => .ok (some n)
    | .error .content => .error (.notInteger claim)
    | .error fault => .error (.time fault)

/-- The audience is a text or a list of texts; as no audience is asked for, none is the right
    one. -/
def checkAudience (claims : Members) : Except ClaimFault Unit :=
  match claims.get? "aud" with
  | none => .ok ()
  | some (.list items) => .error (if items.all Value.isText then .audience else .audienceFormat)
  | some v => .error (if v.isText then .audience else .audienceFormat)

/-- A claim that has to be a text if it is there. -/
def checkText (claims : Members) (key : String) (fault : ClaimFault) : Except ClaimFault Unit :=
  if ((claims.get? key).map Value.isText).getD true then .ok () else .error fault

/-- Checks claims at a time in whole seconds: the token has begun to hold, and it holds up to and
    including the second in which it expires. -/
def checkClaims (claims : Members) (now : Int) : Except ClaimFault Unit := do
  let _ ← seconds? claims .issuedAt
  match ← seconds? claims .notBefore with
  | some n => if now < n then throw .notYetValid
  | none => pure ()
  match ← seconds? claims .expiration with
  | some n => if n < now then throw .expired
  | none => pure ()
  checkAudience claims
  checkText claims "sub" .subject
  checkText claims "jti" .tokenId
  if (claims.get? "at_hash").isSome then throw .accessHash

end QueryDesk.Token

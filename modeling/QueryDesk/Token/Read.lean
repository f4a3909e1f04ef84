import QueryDesk.Token.Claims
import QueryDesk.Token.Key

/-!
# Reading tokens

A token has three parts between points: a header, claims and a signature, each in base64. It is read
in the order form, algorithm, signature, claims, and the first fault is reported.
-/

namespace QueryDesk.Token

/-- Why a token is refused. -/
inductive ReadFault where
  | segments
  | header (reason : String)
  | payloadPadding
  | signaturePadding
  | noAlgorithm
  | algorithm
  /-- The secret to check with is no key. -/
  | key
  | signature
  | payload (reason : String)
  /-- The header or the claims are nested too deeply. -/
  | nesting
  | claims (fault : ClaimFault)
  deriving DecidableEq, Repr

/-- The message about a refused token. -/
def ReadFault.message : ReadFault → String
  | segments => "Not enough segments"
  | header reason => s!"Invalid header string: {reason}"
  | payloadPadding => "Invalid payload padding"
  | signaturePadding => "Invalid crypto padding"
  | noAlgorithm => "No algorithm was specified in the JWS header."
  | algorithm => "The specified alg value is not allowed"
  | key => ""
  | signature => "Signature verification failed."
  | payload reason => s!"Invalid payload string: {reason}"
  | nesting => ""
  | claims fault => fault.message

/-- The parts of a token. -/
structure Parts where
  header : List UInt8
  claims : List Char
  signature : List Char
  /-- The header and the claims with the point between them, which the signature is for. -/
  signed : List Char
  deriving DecidableEq, Repr

/-- A text without what follows its last point, and that. -/
def cutLast? (cs : List Char) : Option (List Char × List Char) :=
  (Text.cut? ['.'] cs.reverse).map fun (last, rest) => (rest.reverse, last.reverse)

/-- Cuts a token: the signature follows the last point, and the header ends at the first one. -/
def parts? (token : String) : Option Parts := do
  let (signed, signature) ← cutLast? token.toList
  let (header, claims) ← Text.cut? ['.'] signed
  let header ← Base64.decodeUrl header
  some ⟨header, claims, signature, signed⟩

/-- Bytes as the object that they are the JSON of; the reason why they are none makes a fault. -/
def readObject (depth : Nat) (fault : String → ReadFault) (bytes : List UInt8) :
    Except ReadFault Members :=
  match Text.Utf8.decode bytes with
  | .error e => .error (fault (e.message bytes))
  | .ok cs =>
    if cs.head? = some (Char.ofNat 0xFEFF) then
      .error (fault "Unexpected UTF-8 BOM (decode using utf-8-sig): line 1 column 1 (char 0)")
    else match Json.readChars depth cs with
      | .error ⟨.nesting, _⟩ => .error .nesting
      | .error e => .error (fault (e.message cs))
      | .ok (.object members) => .ok members
      | .ok _ => .error (fault "must be a json object")

/-- The one algorithm in use. -/
def algorithm : String := "HS256"

/-- The header names the algorithm in use. -/
def checkAlgorithm (header : Members) : Except ReadFault Unit :=
  match header.get? "alg" with
  | none => .error .noAlgorithm
  | some v =>
    if !v.isTruthy then .error .noAlgorithm
    else match v with
      | .text s => if s = algorithm then .ok () else .error .algorithm
      | _ => .error .algorithm

/-- The signature is right under one of the keys; they are tried in order, and what is no key is a
    fault when its turn comes. -/
def checkSignature (signed : List Char) (signature : List UInt8) : List Value →
    Except ReadFault Unit
  | [] => .error .signature
  | key :: rest =>
    match keyBytes? key with
    | none => .error .key
    | some bytes =>
      if Hmac.sign bytes (Text.Utf8.encode signed) = signature then .ok ()
      else checkSignature signed signature rest

/-- Reads a token that was signed under a secret, at a time in whole seconds. -/
def read (nesting : Json.Nesting) (secret : Value) (token : String) (now : Int) :
    Except ReadFault Members := do
  let parts ← match parts? token with
    | some parts => pure parts
    | none => throw .segments
  let header ← readObject (nesting.limit .token) .header parts.header
  let payload ← match Base64.decodeUrl parts.claims with
    | some bytes => pure bytes
    | none => throw .payloadPadding
  let signature ← match Base64.decodeUrl parts.signature with
    | some bytes => pure bytes
    | none => throw .signaturePadding
  checkAlgorithm header
  checkSignature parts.signed signature (keys (nesting.limit .secret) secret)
  let claims ← readObject (nesting.limit .token) .payload payload
  (checkClaims claims now).mapError .claims
  return claims

end QueryDesk.Token

import QueryDesk.Crypto.Base64
import QueryDesk.Crypto.Hmac
import QueryDesk.Json.Reader
import QueryDesk.Text.Segments
import QueryDesk.Text.Utf8

/-!
# Keys of tokens

A token is signed under a secret text. A secret with which a token is checked may also be a JSON
text: a string, a key object, or a list or an object of several keys.
-/

namespace QueryDesk.Token

/-- The beginnings of keys that are not secret. -/
def publicMarks : List String :=
  ["-----BEGIN PUBLIC KEY-----", "-----BEGIN RSA PUBLIC KEY-----", "-----BEGIN CERTIFICATE-----",
    "ssh-rsa"]

/-- The bytes of a secret text; a public key is none. -/
def secretBytes? (secret : String) : Option (List UInt8) :=
  if publicMarks.any fun mark => Text.occurs mark.toList secret.toList then none
  else some (Text.Utf8.encode secret.toList)

/-- The bytes of a key object: those of its member `k`, if it is of the kind for shared secrets. -/
def objectKey? (members : Members) : Option (List UInt8) :=
  match members.get? "kty", members.get? "k" with
  | some (.text "oct"), some (.text k) => Base64.decodeUrl k.toList
  | _, _ => none

/-- The bytes of one key. -/
def keyBytes? : Value → Option (List UInt8)
  | .text s => secretBytes? s
  | .object members => objectKey? members
  | _ => none

/-- The text of a JSON number is kept as it is written. -/
def isNumeral (cs : List Char) : Bool :=
  match Json.number cs with
  | .ok (_, []) => true
  | .error ⟨.digits _, _⟩ => true
  | _ => false

/-- The values that iterating over a value gives. -/
def members : Value → List Value
  | .list items => items
  | .object pairs => pairs.map fun (key, _) => .text key
  | .text s => s.toList.map fun c => .text (String.singleton c)
  | v => [v]

/-- The keys that a secret text stands for; as JSON it may have `depth` arrays and objects around
    each other. -/
def keysOfText (depth : Nat) (secret : String) : List Value :=
  let trimmed := Text.dropWhileEnd Json.isSpace (Json.skip secret.toList)
  if isNumeral trimmed then [.text (String.ofList trimmed)]
  else match Json.readChars depth secret.toList with
    | .error _ => [.text secret]
    | .ok (.object pairs) =>
      match Members.get? "keys" pairs with
      | some inner => members inner
      | none =>
        if (Members.get? "kty" pairs).isSome || pairs.isEmpty then [.object pairs]
        else pairs.map Prod.snd
    | .ok (.list items) => items
    | .ok v => [v]

/-- The keys that a secret stands for when a token is checked. -/
def keys (depth : Nat) : Value → List Value
  | .text s => keysOfText depth s
  | .object pairs =>
    match Members.get? "keys" pairs with
    | some inner => members inner
    | none =>
      if (Members.get? "kty" pairs).isSome || pairs.isEmpty then [.object pairs]
      else pairs.map Prod.snd
  | .list items | .tuple items => items
  | v => [v]

end QueryDesk.Token

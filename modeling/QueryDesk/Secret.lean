import QueryDesk.Crypto.Base64
import QueryDesk.Crypto.Hmac
import QueryDesk.Number.Numeral
import QueryDesk.Text.Segments
import QueryDesk.Text.Utf8

/-!
# Hashed secrets

A secret is kept as a salted hash, written as its scheme, its number of rounds, its salt and its
checksum between dollar signs. `Secret.verify` compares a secret with such a text.
-/

namespace QueryDesk.Secret

/-- Why a secret cannot be compared with a text. -/
inductive Fault where
  /-- The text begins with no scheme that is known. -/
  | unknownScheme
  /-- The secret is too long. -/
  | tooLong
  /-- The text is no well-formed hash. -/
  | malformed
  /-- The characters of the salt or the checksum do not make up groups. -/
  | encoding
  deriving DecidableEq, Repr

/-- The most characters that a secret may have. -/
def maxLength : Nat := 4096

/-- What every hash begins with. -/
def scheme : String := "$pbkdf2-sha256$"

/-- A hash, read. -/
structure Hashed where
  rounds : Nat
  salt : List UInt8
  checksum : List UInt8
  deriving DecidableEq, Repr

/-- The bytes of a secret. -/
def bytes (secret : String) : List UInt8 :=
  Text.Utf8.encode secret.toList

/-- Reads a number of rounds, which has no leading zeros. -/
def rounds? (cs : List Char) : Option Int :=
  if cs.head? = some '0' && cs ≠ ['0'] then none else Numeral.readInt? cs

/-- Reads a salt or a checksum: base64 without padding, where a point stands for the plus sign. -/
def field (cs : List Char) : Except Fault (List UInt8) :=
  if cs.any (128 ≤ ·.toNat) || cs.length % 4 = 1 then .error .malformed
  else match Base64.decode '+' '/' (Base64.padded (cs.map fun c => if c = '.' then '+' else c)) with
    | some bytes => .ok bytes
    | none => .error .encoding

/-- A hash of parts that are within bounds: rounds from 1 to the largest number of 32 bits, a salt
    of at most 1024 bytes and a checksum of 32 bytes. -/
def checked (rounds : Int) (salt checksum : List UInt8) : Except Fault Hashed :=
  if 1 ≤ rounds ∧ rounds ≤ 0xffffffff ∧ salt.length ≤ 1024 ∧ checksum.length = 32 then
    .ok ⟨rounds.toNat, salt, checksum⟩
  else .error .malformed

/-- Reads what follows the scheme; a missing checksum is read as an empty one. -/
def hashed (cs : List Char) : Except Fault Hashed :=
  let read (rounds salt checksum : List Char) : Except Fault Hashed :=
    match rounds? rounds with
    | none => .error .malformed
    | some rounds => do
      let salt ← field salt
      let checksum ← field checksum
      checked rounds salt checksum
  match Text.splitAt '$' cs with
  | [rounds, salt, checksum] => read rounds salt checksum
  | [rounds, salt] => read rounds salt []
  | _ => .error .malformed

/-- The secret is the one that was hashed. -/
def Hashed.accepts (h : Hashed) (secret : String) : Bool :=
  Hmac.derive (bytes secret) h.salt h.rounds == h.checksum

/-- Compares a secret with a hash: the scheme is looked at first, then the length of the secret. -/
def verify (secret hash : String) : Except Fault Bool :=
  match scheme.toList.isPrefixOf? hash.toList with
  | none => .error .unknownScheme
  | some rest =>
    if maxLength < secret.length then .error .tooLong
    else (hashed rest).map (Hashed.accepts · secret)

/-- Two secrets that every hash treats alike: as keys of one block they are the same. -/
def alike (a b : String) : Bool :=
  Hmac.blockKey (bytes a) == Hmac.blockKey (bytes b)

end QueryDesk.Secret

import QueryDesk.Crypto.Sha256

/-!
# Keyed hashes

HMAC with SHA-256, and the derivation of keys from passwords by repeating it (PBKDF2).
-/

namespace QueryDesk.Hmac

/-- A key of one block: a longer key is hashed first, and zeros fill up a shorter one. -/
def blockKey (key : List UInt8) : List UInt8 :=
  let short := if 64 < key.length then Sha256.hash key else key
  short ++ List.replicate (64 - short.length) 0

/-- The states that a key leads to: the one that goes on with the message, and the one that goes on
    with the hash of the first. -/
structure Keyed where
  inner : Sha256.State
  outer : Sha256.State

/-- The states of a key. -/
def keyed (key : List UInt8) : Keyed :=
  let block := blockKey key
  let state (mask : UInt8) := Sha256.compress Sha256.initial (Sha256.words (block.map (· ^^^ mask)))
  ⟨state 0x36, state 0x5c⟩

/-- The keyed hash of a message. -/
def signWith (k : Keyed) (message : List UInt8) : List UInt8 :=
  (Sha256.finish k.outer 64 (Sha256.finish k.inner 64 message).bytes).bytes

/-- The keyed hash of a message under a key. -/
def sign (key message : List UInt8) : List UInt8 :=
  signWith (keyed key) message

/-- The bits in which two byte strings differ. -/
def differences (xs ys : List UInt8) : List UInt8 :=
  List.zipWith (· ^^^ ·) xs ys

/-- Goes on for `count` rounds from the last keyed hash, collecting the differences. -/
def iterate (k : Keyed) : (count : Nat) → (last collected : List UInt8) → List UInt8
  | 0, _, collected => collected
  | count + 1, last, collected =>
    let next := signWith k last
    iterate k count next (differences collected next)

/-- The first thirty-two bytes that a password, a salt and a number of rounds lead to. -/
def derive (password salt : List UInt8) (rounds : Nat) : List UInt8 :=
  let k := keyed password
  let first := signWith k (salt ++ [0, 0, 0, 1])
  iterate k (rounds - 1) first first

end QueryDesk.Hmac

import QueryDesk.Text.Blank
import QueryDesk.Text.Case
import QueryDesk.Value.Convert

/-!
# Recipients

Addresses are compared without blanks around them and in lower case. The recipients of a message are
the addresses that are not empty, in their order and with repetitions.
-/

namespace QueryDesk

/-- Why something is no list of recipients. -/
inductive RecipientFault where
  /-- It is neither a text nor a collection. -/
  | notCollection
  /-- A whole number has too many digits for a text. -/
  | tooManyDigits
  deriving DecidableEq, Repr

/-- The normal form of an address. -/
def normalizeEmail (s : String) : String :=
  Text.lower (Text.strip s)

namespace Recipients

/-- The address that an item of a collection stands for. -/
def address (item : Value) : Except RecipientFault String :=
  match item.textOr? "" with
  | some s => .ok (normalizeEmail s)
  | none => .error .tooManyDigits

/-- The items of what a message is sent to: a text is one of them, and an object has its keys. -/
def items : Value → Except RecipientFault (List Value)
  | .text s => .ok [.text s]
  | .list items | .tuple items => .ok items
  | .object members => .ok (members.map fun (key, _) => .text key)
  | v => if v.isTruthy then .error .notCollection else .ok []

/-- The recipients. -/
def normalize (receivers : Value) : Except RecipientFault (List String) := do
  let addresses ← (← items receivers).mapM address
  return addresses.filter (!·.isEmpty)

/-- The groups of recipients that share a message: one for each recipient, or all in one. -/
def batches (separately : Bool) (recipients : List String) : List (List String) :=
  if separately then recipients.map ([·]) else [recipients]

end Recipients

end QueryDesk

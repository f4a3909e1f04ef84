import QueryDesk.Mail.Recipients

/-!
# Purposes and addresses

A code is sent for a purpose to an address. Together, in normal form, they are the key of a session.
-/

namespace QueryDesk

/-- A purpose and an address in normal form. -/
structure OtpKey where
  purpose : String
  email : String
  deriving DecidableEq, Repr

namespace OtpKey

/-- Why a purpose and an address are refused. -/
inductive Fault where
  | purpose
  | email
  deriving DecidableEq, Repr

/-- The message about a refusal. -/
def Fault.message : Fault → String
  | purpose => "Unsupported OTP purpose"
  | email => "Field \"email\" is required"

/-- The purposes that codes are sent for. -/
def purposes : List String := ["SIGN_IN", "VERIFY_EMAIL"]

/-- The purpose when none is given. -/
def defaultPurpose : String := "SIGN_IN"

/-- The normal form of a purpose. -/
def normalizePurpose (s : String) : String :=
  Text.upper (Text.strip s)

/-- The key of a purpose and an address; an address has an at sign. -/
def ofTexts (purpose email : String) : Except Fault OtpKey :=
  let purpose := normalizePurpose purpose
  let email := normalizeEmail email
  if !purposes.contains purpose then .error .purpose
  else if !email.toList.contains '@' then .error .email
  else .ok ⟨purpose, email⟩

/-- The key of two values, unless a whole number that is looked at has too many digits for a text;
    the address is not looked at when the purpose is refused. -/
def ofValues? (purpose email : Value) : Option (Except Fault OtpKey) := do
  let purpose ← purpose.textOr? ""
  match email.textOr? "" with
  | some email => some (ofTexts purpose email)
  | none => if purposes.contains (normalizePurpose purpose) then none else some (.error .purpose)

end OtpKey

end QueryDesk

import QueryDesk.Mail.Recipients
import QueryDesk.Mail.Template

/-!
# Faults of mail
-/

namespace QueryDesk

/-- Why a message was not delivered. -/
inductive DeliveryError where
  | noRecipient
  | smtpUnconfigured
  | smtpModes
  | smtpFailed (reason : String)
  | missingSetting (name : String)
  | requestFailed (service reason : String)
  | refused (service detail : String)
  | unknownProvider (name : String)
  deriving DecidableEq, Repr

/-- The message about a failed delivery. -/
def DeliveryError.message : DeliveryError → String
  | noRecipient => "No valid recipient email"
  | smtpUnconfigured => "SMTP_HOST/SMTP_PORT are not configured"
  | smtpModes => "SMTP_USE_TLS and SMTP_USE_SSL cannot both be enabled"
  | smtpFailed reason => s!"SMTP delivery failed: {reason}"
  | missingSetting name => s!"{name} is not configured"
  | requestFailed service reason => s!"{service} request failed: {reason}"
  | refused service detail => s!"{service} error: {detail}"
  | unknownProvider name => s!"Unknown EMAIL_PROVIDER: {name}"

/-- Why a mail operation ends without an answer. Only `delivery` is expected by its callers. -/
inductive MailFault where
  | delivery (e : DeliveryError)
  | recipients (fault : RecipientFault)
  /-- The setting SMTP_PORT is no number. -/
  | portNumber (fault : ConvertFault)
  /-- A remote service answered an error with a body that is no object. -/
  | errorBody
  /-- The name of the environment is no text. -/
  | environment
  /-- A setting holds a whole number of too many digits. -/
  | tooManyDigits
  /-- A template cannot be filled. -/
  | template (surprise : Template.Surprise)
  deriving DecidableEq, Repr

end QueryDesk

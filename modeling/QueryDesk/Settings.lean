import QueryDesk.Platform
import QueryDesk.Text.Case

/-!
# Settings

The settings of the service with their names, kinds and defaults. Settings are read from the
environment, and a running service may be given any value for any of them. They come with the
platform on which the service runs.
-/

namespace QueryDesk

/-- A setting. -/
inductive Setting where
  | appEnv
  | appName
  | corsOrigins
  | databaseUrl
  | connectTimeout
  | reconnectDelay
  | syncSchema
  | tokenSecret
  | tokenTtlMinutes
  | emailProvider
  | emailFrom
  | emailServiceUrl
  | serviceToken
  | sendgridKey
  | sendgridUrl
  | smtpHost
  | smtpPort
  | smtpUser
  | smtpPassword
  | smtpTls
  | smtpSsl
  | otpLength
  | otpTtlMinutes
  | otpMaxAttempts
  | otpSubject
  | otpBody
  deriving DecidableEq, Repr

/-- What a setting holds. -/
inductive SettingKind where
  | text
  | whole
  | double
  | flag
  deriving DecidableEq, Repr

/-- The declaration of a setting; without default it has to be given. -/
structure SettingEntry where
  setting : Setting
  name : String
  kind : SettingKind := .text
  default : Option Value

namespace Setting

/-- A setting that holds a text. -/
def textEntry (s : Setting) (name default : String) : SettingEntry :=
  ⟨s, name, .text, some (.text default)⟩

/-- A setting that holds a whole number. -/
def wholeEntry (s : Setting) (name : String) (default : Int) : SettingEntry :=
  ⟨s, name, .whole, some (.int default)⟩

/-- A setting that holds a truth value. -/
def flagEntry (s : Setting) (name : String) (default : Bool) : SettingEntry :=
  ⟨s, name, .flag, some (.bool default)⟩

/-- A setting that holds a double, with a whole default. -/
def doubleEntry (s : Setting) (name : String) (default : Int) : SettingEntry :=
  ⟨s, name, .double, some (.float (Binary64.ofInt default))⟩

/-- The declarations of all settings, in order. -/
def entries : List SettingEntry := [
  textEntry appEnv "APP_ENV" "local",
  textEntry appName "APP_NAME" "restful-query-api",
  textEntry corsOrigins "CORS_ORIGINS" "http://localhost:3000",
  ⟨databaseUrl, "DATABASE_URL", .text, none⟩,
  doubleEntry connectTimeout "DB_CONNECT_TIMEOUT_SECONDS" 10,
  doubleEntry reconnectDelay "DB_RECONNECT_DELAY_SECONDS" 1,
  flagEntry syncSchema "DB_SYNC_SCHEMA" true,
  textEntry tokenSecret "JWT_SECRET" "change_me_jwt",
  wholeEntry tokenTtlMinutes "JWT_TTL_MINUTES" 1440,
  textEntry emailProvider "EMAIL_PROVIDER" "dummy",
  textEntry emailFrom "EMAIL_FROM" "noreply@example.com",
  textEntry emailServiceUrl "EMAIL_SERVICE_URL" "http://email-service:8010",
  textEntry serviceToken "INTERNAL_SERVICE_TOKEN" "change_me_internal_service_token",
  textEntry sendgridKey "SENDGRID_API_KEY" "",
  textEntry sendgridUrl "SENDGRID_API_URL" "https://api.sendgrid.com/v3/mail/send",
  textEntry smtpHost "SMTP_HOST" "",
  wholeEntry smtpPort "SMTP_PORT" 587,
  textEntry smtpUser "SMTP_USER" "",
  textEntry smtpPassword "SMTP_PASSWORD" "",
  flagEntry smtpTls "SMTP_USE_TLS" true,
  flagEntry smtpSsl "SMTP_USE_SSL" false,
  wholeEntry otpLength "OTP_LENGTH" 6,
  wholeEntry otpTtlMinutes "OTP_TTL_MINUTES" 10,
  wholeEntry otpMaxAttempts "OTP_MAX_ATTEMPTS" 5,
  textEntry otpSubject "OTP_EMAIL_SUBJECT_TEMPLATE" "Your verification code: \x7bcode\x7d",
  textEntry otpBody "OTP_EMAIL_TEMPLATE"
    "<p>Your verification code: <b>\x7bcode\x7d</b></p>"]

/-- The setting of a name. -/
def ofName? (name : String) : Option Setting :=
  (entries.find? (·.name == name)).map (·.setting)

/-- The default of a setting; null if it has none. -/
def default (s : Setting) : Value :=
  ((entries.find? (·.setting == s)).bind (·.default)).getD .null

end Setting

/-- A value for every setting, and the platform. -/
structure Settings where
  get : Setting → Value
  platform : Platform := {}

namespace Settings

/-- The defaults, with a database address. -/
def defaults (databaseUrl : String) : Settings where
  get s := if s = .databaseUrl then .text databaseUrl else s.default

/-- Gives a setting a value. -/
def set (settings : Settings) (s : Setting) (v : Value) : Settings :=
  { settings with get := fun t => if t = s then v else settings.get t }

/-- Gives named settings their values; unknown names are passed over. -/
def override (settings : Settings) (changes : Members) : Settings :=
  changes.foldl (fun settings change =>
    match Setting.ofName? change.1 with
    | some s => settings.set s change.2
    | none => settings) settings

/-- Reads the text of a setting in the environment. -/
def readText (entry : SettingEntry) (s : String) : Validated Value :=
  let location := [entry.name]
  match entry.kind with
  | .text => .ok (.text s)
  | .whole => (Validation.int location (.text s)).map .int
  | .flag => (Validation.bool location (.text s)).map .bool
  | .double => match Validation.readFloat? s with
    | some x => .ok (.float x)
    | none => Validation.refuse .floatParsing location (.text s)

/-- Reads a setting from the environment; a setting that is not there has its default. -/
def readEntry (environment : List (String × String)) (entry : SettingEntry) : Validated Value :=
  match environment.lookup entry.name, entry.default with
  | some s, _ => readText entry s
  | none, some v => .ok v
  | none, none =>
    Validation.refuse .missing [entry.name] (.object (environment.map fun (k, s) => (k, .text s)))

/-- Reads all settings from the environment. -/
def ofEnvironment (platform : Platform) (environment : List (String × String)) :
    Validated Settings :=
  (Validation.every (Setting.entries.map fun entry =>
    (readEntry environment entry).map (entry.setting, ·))).map
  fun values => ⟨fun s => (values.lookup s).getD .null, platform⟩

/-- The origins in a list between commas; blanks around them do not matter. -/
def originList (s : String) : List String :=
  ((Text.split ',' s).map Text.strip).filter (!·.isEmpty)

/-- The origins from which pages may read answers; a setting that is no text names none, and no
    service starts with it. -/
def origins? (settings : Settings) : Option (List String) :=
  match settings.get .corsOrigins with
  | .text s => some (originList s)
  | _ => none

/-- How deeply the payload of a request may be nested. -/
def payloadDepth (settings : Settings) : Nat :=
  settings.platform.nesting.limit .payload

/-- How deeply the answer to a request of our own may be nested. -/
def replyDepth (settings : Settings) : Nat :=
  settings.platform.nesting.limit .reply

/-- The environment is the one for tests; a setting that is no text leaves it open. -/
def isTestEnv? (settings : Settings) : Option Bool :=
  match settings.get .appEnv with
  | .text s => some (Text.lower (Text.strip s) == "test")
  | _ => none

end Settings

end QueryDesk

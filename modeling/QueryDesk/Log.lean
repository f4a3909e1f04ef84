/-!
# Log lines
-/

namespace QueryDesk

/-- How serious a log line is. -/
inductive Severity where
  | debug
  | info
  | warning
  | error
  deriving DecidableEq, Repr

/-- The word for a severity. -/
def Severity.text : Severity → String
  | .debug => "DEBUG"
  | .info => "INFO"
  | .warning => "WARNING"
  | .error => "ERROR"

/-- A line of a log. -/
structure LogLine where
  severity : Severity
  message : String
  deriving DecidableEq, Repr

end QueryDesk

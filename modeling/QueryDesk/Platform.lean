import QueryDesk.Http.Manual
import QueryDesk.Json.Reader
import QueryDesk.Mail.Template

/-!
# The platform

What the service finds where it runs: the language with its limits and its objects, and the
framework that describes the interface. Nothing in the service decides any of it.
-/

namespace QueryDesk

/-- A platform. -/
structure Platform where
  nesting : Json.Nesting := .uniform 950 (by decide)
  objects : Template.Objects := .bare
  /-- What the pages about the public interface hold. -/
  manual : Http.Manual → Http.Body := fun _ => .text ""
  /-- What the pages about the mail gateway hold. -/
  gatewayManual : Http.Manual → Http.Body := fun _ => .text ""

end QueryDesk

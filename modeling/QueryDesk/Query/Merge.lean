import QueryDesk.Log
import QueryDesk.Text.Quoted
import QueryDesk.Value.Basic

/-!
# Merging predicates

Contributions are merged in order: a later value of a key replaces the earlier one in its place, and
the log records every replacement with the two contributors.
-/

namespace QueryDesk

/-- Predicate entries and the name of their contributor. -/
structure Contribution where
  source : String
  entries : Members

namespace Contribution

/-- One entry of a contribution. -/
structure Write where
  source : String
  key : String
  value : Value

/-- The entries of contributions, in order. -/
def writes (contributions : List Contribution) : List Write :=
  contributions.flatMap fun c => c.entries.map fun (key, value) => ⟨c.source, key, value⟩

/-- An entry that replaced another. -/
structure Replacement where
  key : String
  replaced : String
  source : String
  deriving DecidableEq, Repr

/-- The log line about a replacement. -/
def Replacement.line (r : Replacement) : LogLine :=
  ⟨.debug, s!"predicate key {Text.Quoted.encode r.key} from {r.replaced} replaced by {r.source}"⟩

/-- The merged predicate. -/
def merged (contributions : List Contribution) : Members :=
  Members.ofPairs ((writes contributions).map fun w => (w.key, w.value))

/-- The replacements among writes, given the earlier ones, the latest first. -/
def replacementsAfter (earlier : List Write) : List Write → List Replacement
  | [] => []
  | w :: rest =>
    let replaced := (earlier.find? (·.key == w.key)).map fun e =>
      (⟨w.key, e.source, w.source⟩ : Replacement)
    replaced.toList ++ replacementsAfter (w :: earlier) rest

/-- The replacements that merging makes, in order. -/
def replacements (contributions : List Contribution) : List Replacement :=
  replacementsAfter [] (writes contributions)

/-- The log lines of a merge. -/
def log (contributions : List Contribution) : List LogLine :=
  (replacements contributions).map Replacement.line

end Contribution

end QueryDesk

import QueryDesk.Http.Routing

/-!
# Pages about an interface

The framework describes every interface on pages of its own, which it makes from the routes.
-/

namespace QueryDesk.Http

/-- A page that the framework offers about an interface. -/
inductive Manual where
  | schema
  | explorer
  /-- Where the explorer comes back to after signing in elsewhere. -/
  | signedIn
  | reference
  deriving DecidableEq, Repr

/-- The path of a page. -/
def Manual.path : Manual → String
  | schema => "/openapi.json"
  | explorer => "/docs"
  | signedIn => "/docs/oauth2-redirect"
  | reference => "/redoc"

/-- The routes of the pages about an interface. Of an answer to HEAD the server leaves out the
    body. -/
def manualRoutes {α : Type} (target : Manual → α) : List (Route α) :=
  [.schema, .explorer, .signedIn, .reference].map fun page =>
    ⟨["GET", "HEAD"], page.path, target page⟩

end QueryDesk.Http

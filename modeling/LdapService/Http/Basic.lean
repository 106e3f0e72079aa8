import LdapService.Http.Exposition
import LdapService.ServiceError
import LdapService.Text.Quoted

/-!
Two pages for the operator of a service: whether its directory is well, and
what it has counted. Both can be read and nothing else; a request for the head
of a page does all that the page does and leaves out the body.
-/

namespace LdapService.Http

structure Response where
  status : Nat
  contentType : Option String := none
  allow : Option String := none
  body : String := ""

inductive Page where
  | health
  | metrics
  deriving DecidableEq, Repr

/-- The query of a target is not looked at. -/
def Page.ofTarget? (target : String) : Option Page :=
  let path := String.ofList (target.toList.takeWhile fun c => c != '?' && c != '#')
  if path = "/health" then some health
  else if path = "/metrics" then some metrics
  else none

def notFound : Response := { status := 404 }

def notAllowed : Response := { status := 405, allow := some "GET,HEAD" }

def object (members : List (String × String)) : String :=
  let parts := members.map fun (name, value) => s!"{Text.quoted name}:{value}"
  "\x7b" ++ String.intercalate "," parts ++ "\x7d"

/-- A directory that cannot tell how it is counts as unwell. -/
def healthPage (outcome : Except ServiceError Bool) (observed : List Observation)
    (timestamp : String) : Response :=
  let healthy := outcome.toOption.getD false
  let data := object [
    ("status", Text.quoted (if healthy then "healthy" else "unhealthy")),
    ("directory", toString healthy),
    ("active_sessions", toString (Observation.activeSessions observed)),
    ("timestamp", Text.quoted timestamp)]
  { status := if healthy then 200 else 503
    contentType := some "application/json"
    body := object [("success", "true"), ("data", data), ("error", "null")] }

def metricsPage (observed : List Observation) : Response where
  status := 200
  contentType := some "text/plain; version=0.0.4"
  body := exposition observed

/-- Answers one request. The directory is asked for its health only when the
page needs it. -/
def respond {m : Type → Type} [Monad m] (checkHealth : m (Except ServiceError Bool))
    (observed : List Observation) (timestamp method target : String) : m Response := do
  match Page.ofTarget? target with
  | none => return notFound
  | some page =>
      if method ≠ "GET" ∧ method ≠ "HEAD" then return notAllowed
      let response ← match page with
        | .health => (healthPage · observed timestamp) <$> checkHealth
        | .metrics => pure (metricsPage observed)
      return if method = "HEAD" then { response with body := "" } else response

end LdapService.Http

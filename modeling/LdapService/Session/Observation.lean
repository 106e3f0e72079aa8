import LdapService.ResultCode

/-!
What a service counts. Sessions report observations; a tally is how often each
was made, under the names and labels of the Prometheus text format.
-/

namespace LdapService

inductive Observation where
  | sessionOpened
  | sessionClosed
  | operation (name : String) (code : ResultCode)
  | entrySent
  | decodeError (fatal : Bool)
  deriving DecidableEq, Repr

namespace Observation

def activeSessions (observed : List Observation) : Int :=
  (observed.count sessionOpened : Int) - observed.count sessionClosed

def escapeLabel (value : String) : String :=
  String.join (value.toList.map fun
    | '\\' => "\\\\"
    | '"' => "\\\""
    | '\n' => "\\n"
    | c => c.toString)

def labelled (metric : String) (labels : List (String × String)) : String :=
  let parts := labels.map fun (name, value) => name ++ "=\"" ++ escapeLabel value ++ "\""
  metric ++ "\x7b" ++ String.intercalate "," parts ++ "\x7d"

/-- Samples that an observation adds to. A session that closes takes from the
gauge what its opening added. -/
def samples : Observation → List (String × Int)
  | sessionOpened => [("ldap_sessions_total", 1), ("ldap_sessions_active", 1)]
  | sessionClosed => [("ldap_sessions_active", -1)]
  | operation name code => [
      (labelled "ldap_operations_total" [("operation", name), ("result", code.name)], 1),
      (labelled "ldap_operation_duration_seconds_count" [("operation", name)], 1)]
  | entrySent => [("ldap_search_entries_total", 1)]
  | decodeError fatal =>
      let kind := if fatal then "malformed" else "unsupported"
      [(labelled "ldap_decode_errors_total" [("kind", kind)], 1)]

def total (sample : String) (observed : List Observation) : Int :=
  (observed.flatMap samples).foldl
    (fun total pair => if pair.1 == sample then total + pair.2 else total) 0

def tally (observed : List Observation) : List (String × Int) :=
  let names := ((observed.flatMap samples).map (·.1)).eraseDups
  (names.map fun name => (name, total name observed)).filter fun pair => pair.2 != 0

end Observation

end LdapService

import LdapService.Session.Observation

/-!
The Prometheus text format: every metric with its kind, and below it the
samples that have changed since the service started.
-/

namespace LdapService.Http

structure Metric where
  name : String
  kind : String
  help : String

def metrics : List Metric := [
  ⟨"ldap_sessions_total", "counter", "Accepted connections"⟩,
  ⟨"ldap_sessions_active", "gauge", "Connections currently open"⟩,
  ⟨"ldap_operations_total", "counter", "Operations by result"⟩,
  ⟨"ldap_operation_duration_seconds_count", "counter", "Operations timed"⟩,
  ⟨"ldap_search_entries_total", "counter", "Search result entries sent"⟩,
  ⟨"ldap_decode_errors_total", "counter", "Messages that failed to decode"⟩]

def Metric.owns (metric : Metric) (sample : String) : Bool :=
  sample.toList.takeWhile (· != '\x7b') == metric.name.toList

def Metric.lines (metric : Metric) (tally : List (String × Int)) : List String :=
  s!"# HELP {metric.name} {metric.help}" :: s!"# TYPE {metric.name} {metric.kind}" ::
    (tally.filter fun sample => metric.owns sample.1).map fun (name, value) => s!"{name} {value}"

def exposition (observed : List Observation) : String :=
  let tally := Observation.tally observed
  String.join ((metrics.flatMap fun metric => metric.lines tally).map (· ++ "\n"))

end LdapService.Http

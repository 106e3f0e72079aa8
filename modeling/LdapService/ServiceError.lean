import LdapService.IoError

/-!
What goes wrong inside the service, as its operator reads it. Clients never
see these texts.
-/

namespace LdapService

inductive ServiceError where
  | io (error : IoError)
  | connectionClosed
  | tls (reason : String)
  | config (reason : String)
  | directory (reason : String)
  | internal (reason : String)
  | serialization (reason : String)
  deriving DecidableEq, Repr

def ServiceError.message : ServiceError → String
  | io error => s!"I/O error: {error.message}"
  | connectionClosed => "Connection closed by peer"
  | tls reason => s!"TLS error: {reason}"
  | config reason => s!"Configuration error: {reason}"
  | directory reason => s!"Directory data error: {reason}"
  | internal reason => s!"Internal error: {reason}"
  | serialization reason => s!"Serialization error: {reason}"

end LdapService

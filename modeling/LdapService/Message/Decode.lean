import LdapService.Message.Envelope
import LdapService.Message.Reading

/-!
Messages from frames. Once the envelope is sound a fault in the operation
refuses this message alone, unless its encoding itself is broken.
-/

namespace LdapService

namespace Message

/-- The message in an envelope. A critical control stands in the way of every
operation that is answered, for no control is supported. -/
def ofEnvelope (envelope : Envelope) : Except DecodeError Message :=
  let refuse (response : ResponseKind) (cause : Rejection) : Except DecodeError Message :=
    .error (.ofRejection envelope.id response cause)
  let fallback := ResponseKind.forTag envelope.operation.tag
  match Request.ofElement envelope.operation with
  | .error (.encoding .invalidUtf8) => refuse fallback .invalidText
  | .error (.encoding error) => .error (.ofMalformation (.encoding error))
  | .error (.rejected cause) => refuse fallback cause
  | .ok request =>
      match request.kind.response?, envelope.controls.find? (·.critical) with
      | some response, some control => refuse response (.criticalControl control.oid)
      | _, _ => .ok { id := envelope.id, request, controls := envelope.controls }

def decode (frame : Octets) : Except DecodeError Message :=
  match Envelope.ofFrame frame with
  | .error cause => .error (.ofMalformation cause)
  | .ok envelope => ofEnvelope envelope

end Message

end LdapService

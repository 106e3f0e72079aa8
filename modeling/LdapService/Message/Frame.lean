import LdapService.Ber.Length
import LdapService.Message.DecodeError
import LdapService.Message.Tag

/-!
Boundaries of messages in a growing buffer. A message that announces more than
the limit is an error as soon as its length field is there, so that a client
cannot make the service wait for a body it will not take.
-/

namespace LdapService.Frame

def length (limit : Nat) : Octets → Except Malformation (Option Nat)
  | [] => .ok none
  | tag :: rest =>
      if tag ≠ Tag.sequence then .error (.notSequence tag)
      else
        match Ber.Length.read rest with
        | .error error => .error (.encoding error)
        | .ok none => .ok none
        | .ok (some field) =>
            let total := 1 + field.size + field.value
            if limit < total then .error (.tooLong total limit)
            else if (rest.take (total - 1)).length < total - 1 then .ok none
            else .ok (some total)

def split (limit : Nat) (buffer : Octets) : Except Malformation (Option (Octets × Octets)) := do
  let total ← length limit buffer
  pure (total.map fun count => (buffer.take count, buffer.drop count))

end LdapService.Frame

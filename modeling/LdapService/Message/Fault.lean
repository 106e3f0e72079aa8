import LdapService.Ber.Reader
import LdapService.Message.DecodeError
import LdapService.Message.Tag

/-!
What can be wrong inside an operation, and the readings that its parts share.
Two kinds of fault end a reading: an element that is not as the grammar has
it, and a value that the service refuses. The first in reading order decides.
-/

namespace LdapService

open Ber

inductive Fault where
  | encoding (error : Ber.Error)
  | rejected (cause : Rejection)
  deriving DecidableEq, Repr

instance : MonadLift (Reader Ber.Error) (Reader Fault) :=
  ⟨Reader.mapError Fault.encoding⟩

instance {ε : Type} : MonadLift (Except ε) (Reader ε) :=
  ⟨Reader.ofExcept⟩

instance : MonadLift (Except Ber.Error) (Except Fault) :=
  ⟨Except.mapError Fault.encoding⟩

def reject {α : Type} (cause : Rejection) : Except Fault α :=
  .error (.rejected cause)

def requireSome {α : Type} (value : Option α) (cause : Rejection) : Except Fault α :=
  match value with
  | some value => .ok value
  | none => reject cause

def natBelow? (bound : Nat) (number : Int) : Option Nat :=
  if 0 ≤ number ∧ number < bound then some number.toNat else none

def Ber.Element.expect (element : Element) (tag : UInt8) : Except Ber.Error Octets :=
  if element.tag = tag then .ok element.value else .error (.unexpectedTag tag element.tag)

def readTexts (input : Octets) : Except Ber.Error (List String) :=
  mapElements id (fun element => do Reader.textOf (← element.expect Tag.octetString)) input

def readAttribute (value : Octets) : Except Ber.Error (String × List String) := do
  let (attr, values) ← Reader.run value do
    let attr ← Reader.text Tag.octetString
    let values ← Reader.expect Tag.set
    Reader.finish
    return (attr, values)
  return (attr, ← readTexts values)

end LdapService

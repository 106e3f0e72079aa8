import LdapService.Message.Basic
import LdapService.Message.Fault

/-!
Envelopes: id, operation and controls of a message. A fault in the envelope is
a malformation, text in the controls that is not UTF-8 included, for without
the envelope there is no one to answer.
-/

namespace LdapService

open Ber

namespace Control

def ofElement (element : Element) : Except Ber.Error Control := do
  Reader.run (← element.expect Tag.sequence) do
    let oid ← Reader.text Tag.octetString
    let critical ←
      if (← Reader.peek) = some Tag.boolean then Reader.boolean else pure false
    let value ← Reader.optional Tag.octetString
    Reader.finish
    return { oid, critical, value }

def listOf (input : Octets) : Except Ber.Error (List Control) :=
  mapElements id ofElement input

end Control

namespace Message

structure Envelope where
  id : Nat
  operation : Element
  controls : List Control

def Envelope.ofBody (body : Octets) : Except Malformation Envelope :=
  Reader.run body do
    let id ← encoding (Reader.integer Tag.integer)
    let some id' := natBelow? (maxInt + 1) id | Reader.fail (.idOutOfRange id)
    let operation ← encoding Reader.element
    let controls ← encoding (Reader.optional Tag.controls)
    let controls ← encoding (Reader.ofExcept (Control.listOf (controls.getD [])))
    encoding Reader.finish
    return { id := id', operation, controls }
where
  encoding {α : Type} (reader : Reader Ber.Error α) : Reader Malformation α :=
    reader.mapError .encoding

def Envelope.ofFrame (frame : Octets) : Except Malformation Envelope := do
  let body ← (Reader.run (ε := Ber.Error) frame do
    let body ← Reader.expect Tag.sequence
    Reader.finish
    return body).mapError .encoding
  ofBody body

end Message

end LdapService

import LdapService.Filter.Reading
import LdapService.Message.Basic

/-!
Operations from the values of their elements, one reading for each kind of
request.
-/

namespace LdapService

open Ber

namespace BindRequest

def readAuthentication (element : Element) : Except Fault Authentication :=
  if element.tag = Tag.Bind.simple then .ok (.simple element.value)
  else if element.tag = Tag.Bind.sasl then
    Reader.run (ε := Fault) element.value do
      let mechanism ← Reader.text Tag.octetString
      let credentials ← Reader.optional Tag.octetString
      Reader.finish
      return .sasl mechanism credentials
  else reject (.unsupportedAuthentication element.tag)

def ofValue (value : Octets) : Except Fault BindRequest :=
  Reader.run value do
    let version ← requireSome (natBelow? 256 (← Reader.integer Tag.integer)) .invalidVersion
    let name ← Reader.text Tag.octetString
    let authentication ← readAuthentication (← Reader.element)
    Reader.finish
    return { version, name, authentication }

end BindRequest

namespace SearchRequest

def readLimit (limit : SearchLimit) (number : Int) : Except Fault Nat :=
  requireSome (natBelow? (maxInt + 1) number) (.invalidLimit limit number)

def ofValue (value : Octets) : Except Fault SearchRequest :=
  Reader.run value do
    let base ← Reader.text Tag.octetString
    let scope ← Reader.integer Tag.enumerated
    let scope ← requireSome (Scope.ofNumber? scope) (.invalidScope scope)
    let deref ← Reader.integer Tag.enumerated
    let deref ← requireSome (DerefAliases.ofNumber? deref) (.invalidDerefAliases deref)
    let sizeLimit ← readLimit .size (← Reader.integer Tag.integer)
    let timeLimit ← readLimit .time (← Reader.integer Tag.integer)
    let typesOnly ← Reader.boolean
    let filter ← Filter.ofElement Filter.maxDepth (← Reader.element)
    let attributes ← (readTexts (← Reader.expect Tag.sequence) : Except Fault (List String))
    Reader.finish
    return { base, scope, deref, sizeLimit, timeLimit, typesOnly, filter, attributes }

end SearchRequest

namespace ModifyRequest

def readChange (element : Element) : Except Fault Modification := do
  let (operation, attribution) ← Reader.run (ε := Fault) (← element.expect Tag.sequence) do
    let number ← Reader.integer Tag.enumerated
    let operation ←
      requireSome (ModifyOperation.ofNumber? number) (.invalidModifyOperation number)
    let (attr, values) ←
      (readAttribute (← Reader.expect Tag.sequence) : Except Fault (String × List String))
    Reader.finish
    return (operation, attr, values)
  return { operation, attr := attribution.1, values := attribution.2 }

def ofValue (value : Octets) : Except Fault ModifyRequest := do
  let (dn, changes) ← Reader.run (ε := Ber.Error) value do
    let dn ← Reader.text Tag.octetString
    let changes ← Reader.expect Tag.sequence
    Reader.finish
    return (dn, changes)
  return { dn, changes := ← mapElements Fault.encoding readChange changes }

end ModifyRequest

namespace Entry

/-- The entry of an add request. An attribute named more than once collects
all its values. -/
def ofValue (value : Octets) : Except Fault Entry := do
  let (dn, attributes) ← Reader.run (ε := Ber.Error) value do
    let dn ← Reader.text Tag.octetString
    let attributes ← Reader.expect Tag.sequence
    Reader.finish
    return (dn, attributes)
  let pairs ← mapElements Fault.encoding
    (fun element => do readAttribute (← element.expect Tag.sequence)) attributes
  return { dn, attributes := .ofPairs pairs }

end Entry

namespace ModifyDnRequest

def ofValue (value : Octets) : Except Fault ModifyDnRequest :=
  Reader.run (ε := Fault) value do
    let dn ← Reader.text Tag.octetString
    let newRdn ← Reader.text Tag.octetString
    let deleteOldRdn ← Reader.boolean
    let newSuperior ← Reader.optionalText Tag.ModifyDn.newSuperior
    Reader.finish
    return { dn, newRdn, deleteOldRdn, newSuperior }

end ModifyDnRequest

namespace CompareRequest

def ofValue (value : Octets) : Except Fault CompareRequest :=
  Reader.run (ε := Fault) value do
    let dn ← Reader.text Tag.octetString
    let assertion ← (Assertion.ofValue (← Reader.expect Tag.sequence) : Except Fault Assertion)
    Reader.finish
    return { dn, attr := assertion.attr, value := assertion.value }

end CompareRequest

namespace ExtendedRequest

def ofValue (value : Octets) : Except Fault ExtendedRequest :=
  Reader.run (ε := Fault) value do
    let name ← Reader.text Tag.Extended.requestName
    let value ← Reader.optional Tag.Extended.requestValue
    Reader.finish
    return { name, value }

end ExtendedRequest

namespace Request

def ofValue (kind : RequestKind) (value : Octets) : Except Fault Request :=
  match kind with
  | .bind => .bind <$> BindRequest.ofValue value
  | .unbind => .ok .unbind
  | .search => .search <$> SearchRequest.ofValue value
  | .modify => .modify <$> ModifyRequest.ofValue value
  | .add => .add <$> Entry.ofValue value
  | .delete => do return .delete (← Reader.textOf value)
  | .modifyDn => .modifyDn <$> ModifyDnRequest.ofValue value
  | .compare => .compare <$> CompareRequest.ofValue value
  | .abandon => do
      return .abandon (← requireSome (natBelow? 0x100000000 (← Integer.read value)) .invalidAbandonId)
  | .extended => .extended <$> ExtendedRequest.ofValue value

def ofElement (element : Element) : Except Fault Request :=
  match RequestKind.ofTag? element.tag with
  | some kind => ofValue kind element.value
  | none => reject (.unsupportedOperation element.tag)

end Request

end LdapService

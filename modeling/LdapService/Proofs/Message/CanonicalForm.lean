import LdapService.Message.Decode
import LdapService.Proofs.Message.Parts

/-!
Requests as a client writes them, in one form each: no optional element that says
nothing, no controls element without controls, and for each node of a filter the
choice that the reader turns back into it. What has no such form is told by `HasForm`.
-/

namespace LdapService

open Ber

namespace Ber.Element

def octets (element : Element) : Octets :=
  write element.tag element.value

end Ber.Element

namespace Assertion

def write (assertion : Assertion) : Octets :=
  writeText Tag.octetString assertion.attr ++ writeText Tag.octetString assertion.value

def writeExtensible (rule : String) (assertion : Assertion) : Octets :=
  writeText Tag.Extensible.rule rule ++ writeText Tag.Extensible.attr assertion.attr
    ++ writeText Tag.Extensible.value assertion.value

end Assertion

namespace SubstringsAssertion

def writeSegments (assertion : SubstringsAssertion) : Octets :=
  Response.optionalPart Tag.Substring.initial (assertion.initial.map Text.utf8)
    ++ assertion.any.flatMap (writeText Tag.Substring.any)
    ++ Response.optionalPart Tag.Substring.final (assertion.final.map Text.utf8)

def write (assertion : SubstringsAssertion) : Octets :=
  writeText Tag.octetString assertion.attr ++ Element.write Tag.sequence assertion.writeSegments

def HasSegment (assertion : SubstringsAssertion) : Prop :=
  assertion.initial ≠ none ∨ assertion.any ≠ [] ∨ assertion.final ≠ none

end SubstringsAssertion

namespace Filter

def assignedTags : List UInt8 :=
  [Tag.Filter.and, Tag.Filter.or, Tag.Filter.not, Tag.Filter.equality, Tag.Filter.approximate,
    Tag.Filter.greaterOrEqual, Tag.Filter.lessOrEqual, Tag.Filter.substrings, Tag.Filter.present,
    Tag.Filter.extensible]

def IsUnassigned (tag : UInt8) : Prop :=
  isMultiOctetTag tag = false ∧ tag ∉ assignedTags

def tagName (tag : UInt8) : String :=
  s!"0x{Octets.hex tag}"

def tagNamed? (name : String) : Option UInt8 :=
  ((List.range 256).map UInt8.ofNat).find? fun tag => tagName tag == name

mutual

def toElement : Filter → Element
  | present attr => ⟨Tag.Filter.present, Text.utf8 attr⟩
  | always => ⟨0, []⟩
  | never => ⟨0, []⟩
  | undefined =>
      ⟨Tag.Filter.extensible,
        writeText Tag.Extensible.rule "caseIgnoreMatch" ++ writeText Tag.Extensible.value ""⟩
  | equality assertion =>
      match assertion.rule with
      | none => ⟨Tag.Filter.equality, assertion.write⟩
      | some rule => ⟨Tag.Filter.extensible, assertion.writeExtensible rule⟩
  | greaterOrEqual assertion => ⟨Tag.Filter.greaterOrEqual, assertion.write⟩
  | lessOrEqual assertion => ⟨Tag.Filter.lessOrEqual, assertion.write⟩
  | substrings assertion => ⟨Tag.Filter.substrings, assertion.write⟩
  | and children => ⟨Tag.Filter.and, writeAll children⟩
  | or children => ⟨Tag.Filter.or, writeAll children⟩
  | not child => ⟨Tag.Filter.not, (toElement child).octets⟩
  | unknown name => ⟨(tagNamed? name).getD 0, []⟩

def writeAll : List Filter → Octets
  | [] => []
  | child :: rest => (toElement child).octets ++ writeAll rest

end

mutual

def height : Filter → Nat
  | and children => heightAll children + 1
  | or children => heightAll children + 1
  | not child => height child + 1
  | _ => 1

def heightAll : List Filter → Nat
  | [] => 0
  | child :: rest => max (height child) (heightAll rest)

end

inductive HasForm : Filter → Prop
  | present (attr : String) : HasForm (.present attr)
  | undefined : HasForm .undefined
  | equality (assertion : Assertion) : HasForm (.equality assertion)
  | greaterOrEqual {assertion : Assertion} (ruleless : assertion.rule = none) :
      HasForm (.greaterOrEqual assertion)
  | lessOrEqual {assertion : Assertion} (ruleless : assertion.rule = none) :
      HasForm (.lessOrEqual assertion)
  | substrings {assertion : SubstringsAssertion} (ruleless : assertion.rule = none)
      (segment : assertion.HasSegment) : HasForm (.substrings assertion)
  | and {children : List Filter} (each : ∀ child ∈ children, HasForm child) : HasForm (.and children)
  | or {children : List Filter} (each : ∀ child ∈ children, HasForm child) : HasForm (.or children)
  | not {child : Filter} (inner : HasForm child) : HasForm (.not child)
  | unknown {tag : UInt8} (unassigned : IsUnassigned tag) : HasForm (.unknown (tagName tag))

end Filter

def Authentication.write : Authentication → Octets
  | .simple password => Element.write Tag.Bind.simple password
  | .sasl mechanism credentials =>
      Element.write Tag.Bind.sasl
        (writeText Tag.octetString mechanism ++ Response.optionalPart Tag.octetString credentials)

def BindRequest.write (request : BindRequest) : Octets :=
  writeInteger Tag.integer request.version ++ writeText Tag.octetString request.name
    ++ request.authentication.write

def SearchRequest.write (request : SearchRequest) : Octets :=
  writeText Tag.octetString request.base
    ++ writeInteger Tag.enumerated request.scope.number
    ++ writeInteger Tag.enumerated request.deref.number
    ++ writeInteger Tag.integer request.sizeLimit
    ++ writeInteger Tag.integer request.timeLimit
    ++ writeBoolean request.typesOnly
    ++ request.filter.toElement.octets
    ++ Element.write Tag.sequence (request.attributes.flatMap (writeText Tag.octetString))

def Modification.write (change : Modification) : Octets :=
  Element.write Tag.sequence
    (writeInteger Tag.enumerated change.operation.number
      ++ Element.write Tag.sequence (writeAttribute (change.attr, change.values)))

def ModifyRequest.write (request : ModifyRequest) : Octets :=
  writeText Tag.octetString request.dn
    ++ Element.write Tag.sequence (request.changes.flatMap Modification.write)

def Entry.write (entry : Entry) : Octets :=
  writeText Tag.octetString entry.dn
    ++ Element.write Tag.sequence
      (entry.attributes.pairs.flatMap fun pair => Element.write Tag.sequence (writeAttribute pair))

def ModifyDnRequest.write (request : ModifyDnRequest) : Octets :=
  writeText Tag.octetString request.dn ++ writeText Tag.octetString request.newRdn
    ++ writeBoolean request.deleteOldRdn
    ++ Response.optionalPart Tag.ModifyDn.newSuperior (request.newSuperior.map Text.utf8)

def CompareRequest.write (request : CompareRequest) : Octets :=
  writeText Tag.octetString request.dn
    ++ Element.write Tag.sequence
      (Assertion.write { attr := request.attr, value := request.value })

def ExtendedRequest.write (request : ExtendedRequest) : Octets :=
  writeText Tag.Extended.requestName request.name
    ++ Response.optionalPart Tag.Extended.requestValue request.value

namespace Request

def write : Request → Octets
  | bind request => request.write
  | unbind => []
  | search request => request.write
  | modify request => request.write
  | add entry => entry.write
  | delete dn => Text.utf8 dn
  | modifyDn request => request.write
  | compare request => request.write
  | abandon id => Integer.write id
  | extended request => request.write

/-- A version takes one octet and the id of an abandoned request four; limits of a
search are as the protocol bounds them. -/
def HasForm : Request → Prop
  | bind request => request.version < 256
  | search request =>
      request.sizeLimit ≤ maxInt ∧ request.timeLimit ≤ maxInt ∧
        request.filter.HasForm ∧ request.filter.height ≤ Filter.maxDepth
  | abandon id => id < 2 ^ 32
  | _ => True

end Request

namespace Control

def write (control : Control) : Octets :=
  Element.write Tag.sequence
    (writeText Tag.octetString control.oid
      ++ (if control.critical then writeBoolean true else [])
      ++ Response.optionalPart Tag.octetString control.value)

def writeAll (controls : List Control) : Octets :=
  if controls = [] then [] else Element.write Tag.controls (controls.flatMap write)

end Control

namespace Message

def write (message : Message) : Octets :=
  Response.message message.id
    (Element.write message.request.kind.tag message.request.write
      ++ Control.writeAll message.controls)

/-- No control may be critical unless the request is an unbind or an abandon. -/
structure HasForm (message : Message) : Prop where
  id : message.id ≤ maxInt
  request : message.request.HasForm
  controls : message.request.kind = .unbind ∨ message.request.kind = .abandon ∨
    ∀ control ∈ message.controls, control.critical = false

end Message

end LdapService

import LdapService.Attributes
import LdapService.Ber.Writer
import LdapService.Message.Kind
import LdapService.Message.Tag
import LdapService.ResultCode

/-!
Answers as octets. Each function gives one whole message.
-/

namespace LdapService.Response

open Ber

def message (id : Nat) (operation : Octets) : Octets :=
  Element.write Tag.sequence (writeInteger Tag.integer id ++ operation)

def components (code : ResultCode) (matchedDn diagnostic : String) : Octets :=
  writeInteger Tag.enumerated code.number
    ++ writeText Tag.octetString matchedDn ++ writeText Tag.octetString diagnostic

def result (id : Nat) (kind : ResponseKind) (code : ResultCode)
    (matchedDn diagnostic : String) : Octets :=
  message id (Element.write kind.tag (components code matchedDn diagnostic))

def optionalPart (tag : UInt8) : Option Octets → Octets
  | some value => Element.write tag value
  | none => []

def extended (id : Nat) (code : ResultCode) (diagnostic : String) (name : Option String)
    (value : Option Octets) : Octets :=
  message id (Element.write ResponseKind.extended.tag
    (components code "" diagnostic
      ++ optionalPart Tag.Extended.responseName (name.map Text.utf8)
      ++ optionalPart Tag.Extended.responseValue value))

def noticeOfDisconnection : String := "1.3.6.1.4.1.1466.20036"

/-- The unsolicited message before the service closes a connection itself. -/
def notice (code : ResultCode) (diagnostic : String) : Octets :=
  extended 0 code diagnostic (some noticeOfDisconnection) none

def plain (id : Nat) (kind : ResponseKind) (code : ResultCode) (diagnostic : String) : Octets :=
  result id kind code "" diagnostic

def partialAttribute (typesOnly : Bool) (pair : String × List String) : Octets :=
  let values := if typesOnly then [] else pair.2
  Element.write Tag.sequence
    (writeText Tag.octetString pair.1
      ++ Element.write Tag.set (values.flatMap (writeText Tag.octetString)))

def entry (id : Nat) (entry : Entry) (typesOnly : Bool) : Octets :=
  message id (Element.write Tag.searchEntry
    (writeText Tag.octetString entry.dn
      ++ Element.write Tag.sequence (entry.attributes.pairs.flatMap (partialAttribute typesOnly))))

end LdapService.Response

import LdapService.Ber.Error
import LdapService.Message.Kind
import LdapService.ResultCode

/-!
Messages that are not dispatched. A malformed one leaves nothing to trust in
the octets behind it, so the connection has to end. A refused one is sound
and is answered like any other, with a code and a reason.
-/

namespace LdapService

inductive Malformation where
  | encoding (error : Ber.Error)
  | notSequence (tag : UInt8)
  | tooLong (length limit : Nat)
  | idOutOfRange (id : Int)
  deriving DecidableEq, Repr

def Malformation.message : Malformation → String
  | encoding error => error.message
  | notSequence tag => s!"Expected LDAPMessage SEQUENCE, found tag 0x{Octets.hex tag}"
  | tooLong length limit => s!"Message of {length} bytes exceeds the {limit} byte limit"
  | idOutOfRange id => s!"Message ID {id} out of range"

inductive SearchLimit where
  | size
  | time
  deriving DecidableEq, Repr

def SearchLimit.name : SearchLimit → String
  | size => "sizeLimit"
  | time => "timeLimit"

inductive Rejection where
  | unsupportedOperation (tag : UInt8)
  | invalidText
  | invalidVersion
  | unsupportedAuthentication (tag : UInt8)
  | invalidScope (number : Int)
  | invalidDerefAliases (number : Int)
  | invalidLimit (limit : SearchLimit) (number : Int)
  | filterTooDeep
  | negationOfSeveral
  | substringOutOfOrder (tag : UInt8)
  | emptySubstrings
  | extensibleWithoutSubject
  | invalidModifyOperation (number : Int)
  | invalidAbandonId
  | criticalControl (oid : String)
  deriving DecidableEq, Repr

namespace Rejection

def code : Rejection → ResultCode
  | unsupportedAuthentication _ => .authMethodNotSupported
  | criticalControl _ => .unavailableCriticalExtension
  | _ => .protocolError

def message : Rejection → String
  | unsupportedOperation tag => s!"Unsupported operation tag 0x{Octets.hex tag}"
  | invalidText => Ber.Error.invalidUtf8.message
  | invalidVersion => "Invalid LDAP version"
  | unsupportedAuthentication tag => s!"Unsupported authentication choice 0x{Octets.hex tag}"
  | invalidScope number => s!"Invalid scope {number}"
  | invalidDerefAliases number => s!"Invalid derefAliases {number}"
  | invalidLimit limit number => s!"Invalid {limit.name} {number}"
  | filterTooDeep => "Filter nesting too deep"
  | negationOfSeveral => "NOT filter takes one child"
  | substringOutOfOrder tag => s!"Substring choice 0x{Octets.hex tag} out of order"
  | emptySubstrings => "Empty substrings filter"
  | extensibleWithoutSubject => "extensibleMatch needs a matching rule or an attribute"
  | invalidModifyOperation number => s!"Invalid modify operation {number}"
  | invalidAbandonId => "Invalid abandon message ID"
  | criticalControl oid => s!"Critical control {oid} is not supported"

end Rejection

structure Refusal where
  id : Nat
  response : ResponseKind
  code : ResultCode
  reason : String
  deriving DecidableEq, Repr

inductive DecodeError where
  | malformed (reason : String)
  | refused (refusal : Refusal)
  deriving DecidableEq, Repr

namespace DecodeError

def message : DecodeError → String
  | malformed reason => s!"Malformed LDAP message: {reason}"
  | refused refusal => s!"Rejected message {refusal.id}: {refusal.reason}"

def ofMalformation (cause : Malformation) : DecodeError :=
  malformed cause.message

def ofRejection (id : Nat) (response : ResponseKind) (cause : Rejection) : DecodeError :=
  refused ⟨id, response, cause.code, cause.message⟩

end DecodeError

end LdapService

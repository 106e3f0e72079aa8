import LdapService.Octets

/-!
Why an octet string is not the basic encoding of what was expected.
-/

namespace LdapService.Ber

inductive Error where
  | truncated
  | indefiniteLength
  | lengthTooLarge (octets : Nat)
  | multiOctetTag
  | unexpectedTag (expected found : UInt8)
  | invalidInteger
  | invalidBoolean
  | invalidUtf8
  | trailingData
  deriving DecidableEq, Repr

def Error.message : Error → String
  | truncated => "Truncated BER element"
  | indefiniteLength => "Indefinite length encoding is not allowed"
  | lengthTooLarge octets => s!"Length field of {octets} octets is too large"
  | multiOctetTag => "Multi-octet tags are not supported"
  | unexpectedTag expected found =>
      s!"Expected tag 0x{Octets.hex expected}, found 0x{Octets.hex found}"
  | invalidInteger => "Invalid INTEGER encoding"
  | invalidBoolean => "Invalid BOOLEAN encoding"
  | invalidUtf8 => "LDAPString is not valid UTF-8"
  | trailingData => "Trailing bytes after element"

end LdapService.Ber

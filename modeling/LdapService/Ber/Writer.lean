import LdapService.Ber.Element
import LdapService.Ber.Integer
import LdapService.Text.Utf8

/-!
Elements as the service writes them: definite lengths in their shortest form,
minimal integers, and 0xff for true.
-/

namespace LdapService.Ber

def writeInteger (tag : UInt8) (value : Int) : Octets :=
  Element.write tag (Integer.write value)

def writeBoolean (value : Bool) : Octets :=
  Element.write 0x01 [if value then 0xff else 0x00]

def writeOctets (value : Octets) : Octets :=
  Element.write 0x04 value

def writeText (tag : UInt8) (text : String) : Octets :=
  Element.write tag (Text.utf8 text)

end LdapService.Ber

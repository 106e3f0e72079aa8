/-!
Tags inside messages. Tags of the operations themselves belong to the kinds
of request and response.
-/

namespace LdapService.Tag

def boolean : UInt8 := 0x01

def integer : UInt8 := 0x02

def octetString : UInt8 := 0x04

def enumerated : UInt8 := 0x0a

def sequence : UInt8 := 0x30

def set : UInt8 := 0x31

def searchEntry : UInt8 := 0x64

def controls : UInt8 := 0xa0

namespace Bind

def simple : UInt8 := 0x80

def sasl : UInt8 := 0xa3

end Bind

namespace Filter

def and : UInt8 := 0xa0

def or : UInt8 := 0xa1

def not : UInt8 := 0xa2

def equality : UInt8 := 0xa3

def substrings : UInt8 := 0xa4

def greaterOrEqual : UInt8 := 0xa5

def lessOrEqual : UInt8 := 0xa6

def present : UInt8 := 0x87

def approximate : UInt8 := 0xa8

def extensible : UInt8 := 0xa9

end Filter

namespace Substring

def initial : UInt8 := 0x80

def any : UInt8 := 0x81

def final : UInt8 := 0x82

end Substring

namespace Extensible

def rule : UInt8 := 0x81

def attr : UInt8 := 0x82

def value : UInt8 := 0x83

def dnAttributes : UInt8 := 0x84

end Extensible

namespace ModifyDn

def newSuperior : UInt8 := 0x80

end ModifyDn

namespace Extended

def requestName : UInt8 := 0x80

def requestValue : UInt8 := 0x81

def responseName : UInt8 := 0x8a

def responseValue : UInt8 := 0x8b

end Extended

end LdapService.Tag

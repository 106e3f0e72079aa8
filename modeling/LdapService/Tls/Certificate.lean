import LdapService.Tls.Der

/-!
What of a certificate is looked at before it is shown to anyone: its outer
form, and the public key it speaks for. Names, dates and the signature are
for the other side to judge.
-/

namespace LdapService.Tls.Certificate

inductive Fault where
  | badEncoding
  | unsupportedVersion
  | algorithmMismatch
  | unsupportedCriticalExtension
  | repeatedExtension
  deriving DecidableEq, Repr

def Fault.message : Fault → String
  | badEncoding => "BadEncoding"
  | unsupportedVersion => "Other(OtherError(UnsupportedCertVersion))"
  | algorithmMismatch => "Other(OtherError(SignatureAlgorithmMismatch))"
  | unsupportedCriticalExtension => "Other(OtherError(UnsupportedCriticalExtension))"
  | repeatedExtension => "Other(OtherError(ExtensionValueInvalid))"

abbrev Reader := Ber.Reader Fault

def value (tag : UInt8) : Reader Octets := Der.value .badEncoding tag

def within {α : Type} (tag : UInt8) (reader : Reader α) : Reader α :=
  Der.within .badEncoding tag reader

def version : Reader Unit :=
  Der.within .unsupportedVersion 0xa0 do
    let number ← Der.natural .badEncoding
    if 0x100 ≤ number then Ber.Reader.fail .badEncoding
    else if number = 2 then pure ()
    else Ber.Reader.fail .unsupportedVersion

structure Extension where
  name : Octets
  critical : Bool
  content : Octets

def Extension.read : Reader Extension := do
  let name ← value 0x06
  let critical ← match ← Der.optional .badEncoding 0x01 with
    | none => pure false
    | some [0x00] => pure false
    | some [0xff] => pure true
    | some _ => Ber.Reader.fail .badEncoding
  return ⟨name, critical, ← value 0x04⟩

def standardArc : Octets := [0x55, 0x1d]

def keyUsage : UInt8 := 15

def understood : List UInt8 := [keyUsage, 17, 19, 30, 31, 37]

def Extension.number? (extension : Extension) : Option UInt8 :=
  understood.find? fun number => extension.name = standardArc ++ [number]

/-- Takes note of one more extension. None that is understood comes twice, none
that is critical may be passed over. -/
def note (seen : List UInt8) (octets : Octets) : Except Fault (List UInt8) := do
  let extension ← Der.whole .badEncoding octets Extension.read
  match extension.number? with
  | none => if extension.critical then throw .unsupportedCriticalExtension else return seen
  | some number =>
      if number ∈ seen then throw .repeatedExtension
      if number ≠ keyUsage then
        discard (Der.whole .badEncoding extension.content (value 0x30))
      return number :: seen

def extensions : Reader Unit :=
  within 0xa3 do
    let listed ← value 0x30
    discard (Ber.Reader.ofExcept (Der.fold .badEncoding 0x30 note [] listed))

def signedPart (algorithm : Octets) : Reader Octets := do
  version
  discard (value 0x02)
  if (← value 0x30) ≠ algorithm then Ber.Reader.fail .algorithmMismatch
  discard (value 0x30)
  discard (value 0x30)
  discard (value 0x30)
  let key ← value 0x30
  if !(← Ber.Reader.atEnd) then extensions
  return key

def publicKey (octets : Octets) : Except Fault Octets := do
  let (signed, algorithm) ← Der.whole .badEncoding octets (within 0x30 do
    let signed ← value 0x30
    let algorithm ← value 0x30
    discard (Der.bits Fault.badEncoding)
    return (signed, algorithm))
  Der.whole .badEncoding signed (signedPart algorithm)

end LdapService.Tls.Certificate

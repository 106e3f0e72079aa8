import LdapService.Tls.Curve
import LdapService.Tls.Der

/-!
Private keys and the public keys that belong to them. A key is good when its
parts agree with one another; the kinds known are RSA and two curves. A key
comes as it is, or wrapped together with the name of its algorithm. Other
algorithms are refused.
-/

namespace LdapService.Tls

inductive PrivateKey.Form where
  | wrapped
  | rsa
  | elliptic
  deriving DecidableEq, Repr

structure PrivateKey where
  form : PrivateKey.Form
  encoded : Octets
  deriving DecidableEq, Repr

namespace PrivateKey

abbrev Reader := Ber.Reader Unit

def value (tag : UInt8) : Reader Octets := Der.value () tag

def natural : Reader Nat := Der.natural ()

def require (condition : Bool) : Reader Unit :=
  if condition then pure () else Ber.Reader.fail ()

def ofSequence? {α : Type} (octets : Octets) (reader : Reader α) : Option α :=
  (Der.whole () octets (Der.within () 0x30 reader)).toOption

def publicInfo (algorithm key : Octets) : Octets :=
  Ber.Element.write 0x30 algorithm ++ Ber.Element.write 0x03 (0x00 :: key)

def unwrap? (algorithm octets : Octets) : Option Octets :=
  ofSequence? octets do
    require ((← natural) == 0)
    require ((← value 0x30) == algorithm)
    let key ← value 0x04
    discard (Der.optional () 0xa0)
    return key

def rsaAlgorithm : Octets :=
  [0x06, 0x09, 0x2a, 0x86, 0x48, 0x86, 0xf7, 0x0d, 0x01, 0x01, 0x01, 0x05, 0x00]

def ellipticAlgorithm (curve : Curve) : Octets :=
  [0x06, 0x07, 0x2a, 0x86, 0x48, 0xce, 0x3d, 0x02, 0x01] ++ curve.name

def bitLength (number : Nat) : Nat :=
  if number = 0 then 0 else number.log2 + 1

structure RsaNumbers where
  modulus : Nat
  exponent : Nat
  secret : Nat
  first : Nat
  second : Nat
  firstSecret : Nat
  secondSecret : Nat
  coefficient : Nat

namespace RsaNumbers

def read : Reader RsaNumbers := do
  require ((← natural) == 0)
  return ⟨← natural, ← natural, ← natural, ← natural, ← natural, ← natural, ← natural, ← natural⟩

def isOdd (number : Nat) : Bool := number % 2 == 1

/-- A factor has half the bits of the modulus, and they fill blocks of 512. -/
def isFactor (numbers : RsaNumbers) (factor : Nat) : Bool :=
  isOdd factor && bitLength factor == (bitLength numbers.modulus + 1) / 2
    && bitLength factor % 512 == 0

/-- The modulus takes from 256 to 512 octets, the public exponent at most 33 bits. -/
def agree (numbers : RsaNumbers) : Bool :=
  isOdd numbers.modulus && 2040 < bitLength numbers.modulus && bitLength numbers.modulus ≤ 4096
    && isOdd numbers.exponent && 0x10001 ≤ numbers.exponent && bitLength numbers.exponent ≤ 33
    && numbers.isFactor numbers.first && numbers.isFactor numbers.second
    && numbers.first * numbers.second == numbers.modulus
    && isOdd numbers.secret && numbers.secret < numbers.modulus
    && (bitLength numbers.modulus + 1) / 2 < bitLength numbers.secret
    && isOdd numbers.firstSecret && numbers.firstSecret < numbers.first
    && isOdd numbers.secondSecret && numbers.secondSecret < numbers.second
    && numbers.coefficient < numbers.first
    && numbers.coefficient * numbers.second % numbers.first == 1

def publicInfo (numbers : RsaNumbers) : Octets :=
  let integer (number : Nat) : Octets := Ber.Element.write 0x02 (Ber.Integer.write number)
  PrivateKey.publicInfo rsaAlgorithm
    (Ber.Element.write 0x30 (integer numbers.modulus ++ integer numbers.exponent))

end RsaNumbers

def rsaInfo? (octets : Octets) : Option Octets := do
  let numbers ← ofSequence? octets RsaNumbers.read
  guard numbers.agree
  return numbers.publicInfo

/-- The public point stands beside the private number and must be its own. -/
def ellipticInfo? (curve : Curve) (octets : Octets) : Option Octets := do
  let (secret, point) ← ofSequence? octets do
    require ((← natural) == 1)
    let secret ← value 0x04
    let name ← Der.optional () 0xa0
    require (name.all (· == curve.name))
    return (secret, ← Der.within () 0xa1 (Der.bits ()))
  guard (curve.publicPoint? secret = some point)
  return publicInfo (ellipticAlgorithm curve) point

def curves : List Curve := [.p256, .p384]

def publicInfo? (key : PrivateKey) : Option Octets :=
  match key.form with
  | .rsa => rsaInfo? key.encoded
  | .elliptic => curves.findSome? fun curve => ellipticInfo? curve key.encoded
  | .wrapped =>
      ((unwrap? rsaAlgorithm key.encoded).bind rsaInfo?).or
        (curves.findSome? fun curve =>
          (unwrap? (ellipticAlgorithm curve) key.encoded).bind (ellipticInfo? curve))

end PrivateKey

end LdapService.Tls

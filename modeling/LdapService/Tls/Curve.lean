import LdapService.Octets

/-!
Elliptic curves `y² = x³ - 3x + b` over a prime field, as far as a private
number needs them to find its public point. The formulas do not ask for `b`.
-/

namespace LdapService.Tls

def powMod (modulus base exponent : Nat) : Nat :=
  if exponent = 0 then 1
  else
    let root := powMod modulus (base * base % modulus) (exponent / 2)
    if exponent % 2 = 0 then root else root * base % modulus
termination_by exponent
decreasing_by omega

structure Curve where
  size : Nat
  prime : Nat
  order : Nat
  base : Nat × Nat
  name : Octets

namespace Curve

abbrev Point := Option (Nat × Nat)

variable (curve : Curve)

/-- The inverse in the field, by the exponent two below the prime. -/
def inverse (a : Nat) : Nat :=
  powMod curve.prime a (curve.prime - 2)

def minus (a b : Nat) : Nat :=
  (a + curve.prime - b) % curve.prime

/-- The third point on the line with this slope through two points, mirrored. -/
def third (slope : Nat) (p q : Nat × Nat) : Nat × Nat :=
  let x := curve.minus (curve.minus (slope * slope % curve.prime) p.1) q.1
  (x, curve.minus (slope * curve.minus p.1 x % curve.prime) p.2)

def add : Point → Point → Point
  | none, q => q
  | p, none => p
  | some p, some q =>
      if p.1 = q.1 then
        if (p.2 + q.2) % curve.prime = 0 then none
        else
          let rise := curve.minus (3 * p.1 * p.1 % curve.prime) 3
          some (curve.third (rise * curve.inverse (2 * p.2) % curve.prime) p q)
      else
        let rise := curve.minus q.2 p.2
        some (curve.third (rise * curve.inverse (curve.minus q.1 p.1) % curve.prime) p q)

def times (count : Nat) (point : Point) : Point :=
  if count = 0 then none
  else
    let even := times (count / 2) (curve.add point point)
    if count % 2 = 0 then even else curve.add even point
termination_by count
decreasing_by omega

def coordinate (a : Nat) : Octets :=
  (List.range curve.size).reverse.map fun place => UInt8.ofNat (a / Nat.pow 256 place)

/-- Both coordinates behind the mark of a point that is not compressed. -/
def uncompressed (point : Nat × Nat) : Octets :=
  0x04 :: (curve.coordinate point.1 ++ curve.coordinate point.2)

def publicPoint? (secret : Octets) : Option Octets := do
  let number := Octets.toNat secret
  guard (secret.length = curve.size ∧ 0 < number ∧ number < curve.order)
  return curve.uncompressed (← curve.times number (some curve.base))

def p256 : Curve where
  size := 32
  prime := 0xffffffff00000001000000000000000000000000ffffffffffffffffffffffff
  order := 0xffffffff00000000ffffffffffffffffbce6faada7179e84f3b9cac2fc632551
  base := (0x6b17d1f2e12c4247f8bce6e563a440f277037d812deb33a0f4a13945d898c296,
    0x4fe342e2fe1a7f9b8ee7eb4a7c0f9e162bce33576b315ececbb6406837bf51f5)
  name := [0x06, 0x08, 0x2a, 0x86, 0x48, 0xce, 0x3d, 0x03, 0x01, 0x07]

def p384 : Curve where
  size := 48
  prime :=
    0xfffffffffffffffffffffffffffffffffffffffffffffffffffffffffffffffeffffffff0000000000000000ffffffff
  order :=
    0xffffffffffffffffffffffffffffffffffffffffffffffffc7634d81f4372ddf581a0db248b0a77aecec196accc52973
  base :=
    (0xaa87ca22be8b05378eb1c71ef320ad746e1d3b628ba79b9859f741e082542a385502f25dbf55296c3a545e3872760ab7,
      0x3617de4a96262c6f5d9e98bf9292dc29f8f41dbd289a147ce9da3113b5f0b8c00a60b1ce1d7e819d7a431d7c90ea0e5f)
  name := [0x06, 0x05, 0x2b, 0x81, 0x04, 0x00, 0x22]

end Curve

end LdapService.Tls

import LdapService.Ber.Error

/-!
Contents of INTEGER and ENUMERATED elements: two's complement, most
significant octet first. Writing is minimal; reading accepts redundant
leading octets up to eight in all.
-/

namespace LdapService.Ber.Integer

def read : Octets → Except Error Int
  | [] => .error .invalidInteger
  | first :: rest =>
      if 8 < (first :: rest).length then .error .invalidInteger
      else
        let sign : Int := if first < 0x80 then 0 else -1
        .ok ((first :: rest).foldl (fun value octet => value * 256 + octet.toNat) sign)

def writeBefore (rest : Octets) (value : Int) : Octets :=
  let octets := UInt8.ofNat (value % 256).toNat :: rest
  if -128 ≤ value ∧ value < 128 then octets else writeBefore octets (value / 256)
termination_by value.natAbs
decreasing_by omega

def write (value : Int) : Octets :=
  writeBefore [] value

end LdapService.Ber.Integer

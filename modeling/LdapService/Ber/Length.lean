import LdapService.Ber.Error

/-!
Definite lengths of at most four length octets. A reader of a growing buffer
must tell a field that is wrong from one that is not yet there, so an
incomplete field is `none` and not an error.
-/

namespace LdapService.Ber

structure Length where
  value : Nat
  size : Nat
  deriving DecidableEq, Repr

def Length.read : Octets → Except Error (Option Length)
  | [] => .ok none
  | first :: rest =>
      if first < 0x80 then .ok (some ⟨first.toNat, 1⟩)
      else if first = 0x80 then .error .indefiniteLength
      else if 4 < first.toNat - 0x80 then .error (.lengthTooLarge (first.toNat - 0x80))
      else
        match Octets.cut? (first.toNat - 0x80) rest with
        | none => .ok none
        | some (field, _) => .ok (some ⟨Octets.toNat field, 1 + (first.toNat - 0x80)⟩)

/-- The shortest field below 2^24. From there on four octets are written, so
the value is taken modulo 2^32. -/
def Length.write (value : Nat) : Octets :=
  let octet (place : Nat) : UInt8 := UInt8.ofNat (value / Nat.pow 256 place)
  if value < 0x80 then [octet 0]
  else if value < 0x100 then [0x81, octet 0]
  else if value < 0x10000 then [0x82, octet 1, octet 0]
  else if value < 0x1000000 then [0x83, octet 2, octet 1, octet 0]
  else [0x84, octet 3, octet 2, octet 1, octet 0]

theorem Length.one_le_size_of_read {input : Octets} {length : Length}
    (h : Length.read input = .ok (some length)) : 1 ≤ length.size := by
  cases input with
  | nil => cases h
  | cons first rest =>
    simp only [read] at h
    split at h
    · cases h
      exact Nat.le_refl _
    · split at h
      · cases h
      · split at h
        · cases h
        · split at h
          · cases h
          · cases h
            exact Nat.le_add_right _ _

end LdapService.Ber

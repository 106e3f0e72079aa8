/-!
Octet strings. They are lists, so readers and writers of the protocol are
functions on lists and their laws are laws about `++`.
-/

namespace LdapService

abbrev Octets := List UInt8

namespace Octets

def cut? (count : Nat) (octets : Octets) : Option (Octets × Octets) :=
  let parts := octets.splitAt count
  if parts.1.length = count then some parts else none

theorem cut?_eq_some_iff {count : Nat} {octets front rest : Octets} :
    cut? count octets = some (front, rest) ↔
      octets = front ++ rest ∧ front.length = count := by
  simp only [cut?, List.splitAt_eq]
  constructor
  · intro h
    split at h
    · next len =>
      obtain ⟨rfl, rfl⟩ := Prod.mk.inj (Option.some.inj h)
      exact ⟨(List.take_append_drop count octets).symm, len⟩
    · cases h
  · rintro ⟨rfl, rfl⟩
    simp

theorem cut?_append (front rest : Octets) :
    cut? front.length (front ++ rest) = some (front, rest) :=
  cut?_eq_some_iff.2 ⟨rfl, rfl⟩

theorem cut?_eq_none_iff {count : Nat} {octets : Octets} :
    cut? count octets = none ↔ octets.length < count := by
  simp only [cut?, List.splitAt_eq, List.length_take]
  split <;> simp <;> omega

def toNat (octets : Octets) : Nat :=
  octets.foldl (fun value octet => value * 256 + octet.toNat) 0

def hexDigit (value : Nat) : Char :=
  Char.ofNat (if value < 10 then 0x30 + value else 0x57 + value)

def hex (octet : UInt8) : String :=
  String.ofList [hexDigit (octet.toNat / 16), hexDigit (octet.toNat % 16)]

end Octets

end LdapService

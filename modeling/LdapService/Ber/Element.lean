import LdapService.Ber.Length

/-!
Tagged elements with single-octet tags. An element is read only when all of
its value is there.
-/

namespace LdapService.Ber

structure Element where
  tag : UInt8
  value : Octets
  deriving DecidableEq, Repr

/-- Tags whose number continues in further octets. -/
def isMultiOctetTag (tag : UInt8) : Bool :=
  tag &&& 0x1f == 0x1f

def Element.read : Octets → Except Error (Element × Octets)
  | [] => .error .truncated
  | tag :: rest =>
      if isMultiOctetTag tag then .error .multiOctetTag
      else do
        match ← Length.read rest with
        | none => .error .truncated
        | some length =>
            match Octets.cut? length.value (rest.drop length.size) with
            | none => .error .truncated
            | some (value, after) => .ok (⟨tag, value⟩, after)

def Element.write (tag : UInt8) (value : Octets) : Octets :=
  tag :: Length.write value.length ++ value

theorem Element.length_read {input rest : Octets} {element : Element}
    (h : Element.read input = .ok (element, rest)) : rest.length + 2 ≤ input.length := by
  cases input with
  | nil => cases h
  | cons tag tail =>
    simp only [read] at h
    split at h
    · cases h
    · cases found : Length.read tail with
      | error error => simp [found, bind, Except.bind] at h
      | ok length =>
        cases length with
        | none => simp [found, bind, Except.bind] at h
        | some length =>
          simp only [found, bind, Except.bind] at h
          split at h
          · cases h
          · next value after cut =>
            obtain ⟨-, rfl⟩ := Prod.mk.inj (Except.ok.inj h)
            have lengths := congrArg List.length (Octets.cut?_eq_some_iff.1 cut).1
            have sized := Length.one_le_size_of_read found
            have nonempty : 0 < tail.length := by
              cases tail with
              | nil => cases found
              | cons => exact Nat.succ_pos _
            simp only [List.length_drop, List.length_append] at lengths
            simp only [List.length_cons]
            omega

end LdapService.Ber

import LdapService.Proofs.Ber.Lengths

/-!
Elements read back as they were written, whatever follows them. The one condition is the length
field: it holds four octets, so a value must stay below 2^32 octets.
-/

namespace LdapService

namespace Ber

namespace Element

theorem read_write {tag : UInt8} (single : isMultiOctetTag tag = false) {value : Octets}
    (h : Octets.Fits value) (rest : Octets) :
    read (write tag value ++ rest) = .ok (⟨tag, value⟩, rest) := by
  simp only [read, write, List.cons_append, List.append_assoc, single, Bool.false_eq_true,
    if_false, Length.read_write h, bind, Except.bind, List.drop_left, Octets.cut?_append]

theorem fits_of_write {tag : UInt8} {value : Octets} (h : Octets.Fits (write tag value)) :
    Octets.Fits value := by
  have longer := Length.length_write_pos value.length
  unfold Octets.Fits at *
  simp only [write, List.length_cons, List.length_append, List.cons_append] at h
  omega

theorem write_inj {tag tag' : UInt8} {value value' : Octets}
    (h : write tag value = write tag' value') : value = value' := by
  obtain ⟨-, same⟩ := List.cons.inj h
  exact (Length.write_append_inj same).2

theorem write_append_inj {tag tag' : UInt8} {value value' after after' : Octets}
    (short : value'.length < 0x80) (h : write tag value ++ after = write tag' value' ++ after') :
    after = after' := by
  simp only [write, List.cons_append, List.append_assoc] at h
  obtain ⟨-, same⟩ := List.cons.inj h
  obtain ⟨field, same⟩ := Length.write_append_inj same
  exact (List.append_inj same (Length.eq_of_write short field)).2

theorem write_ne_append {tag tag' : UInt8} {value value' more : Octets} (some : more ≠ [])
    (few : more.length < 0x100) : write tag value ≠ write tag' value' ++ more := by
  intro h
  simp only [write, List.cons_append, List.append_assoc] at h
  obtain ⟨-, same⟩ := List.cons.inj h
  obtain ⟨field, same⟩ := Length.write_append_inj same
  have lowest := Length.mod_eq_of_write field
  have positive := List.length_pos_iff.2 some
  rw [same, List.length_append] at lowest
  omega

theorem single_of_read {input rest : Octets} {element : Element}
    (h : read input = .ok (element, rest)) : isMultiOctetTag element.tag = false := by
  cases input with
  | nil => cases h
  | cons tag tail =>
    simp only [read] at h
    split at h
    · cases h
    · next single =>
      cases found : Length.read tail with
      | error error => simp [found, bind, Except.bind] at h
      | ok length =>
        cases length with
        | none => simp [found, bind, Except.bind] at h
        | some length =>
          simp only [found, bind, Except.bind] at h
          split at h
          · cases h
          · cases h
            simpa using single

theorem read_eq_ok_iff {input rest : Octets} {tag : UInt8} {value : Octets} :
    read input = .ok (⟨tag, value⟩, rest) ↔ isMultiOctetTag tag = false ∧
      ∃ (length : Length) (field : Octets), length.IsField field ∧ value.length = length.value ∧
        input = tag :: (field ++ value ++ rest) := by
  constructor
  · intro h
    have single := single_of_read h
    cases input with
    | nil => cases h
    | cons first tail =>
      simp only [read] at h
      split at h
      · cases h
      · cases found : Length.read tail with
        | error error => simp [found, bind, Except.bind] at h
        | ok measured =>
          cases measured with
          | none => simp [found, bind, Except.bind] at h
          | some length =>
            simp only [found, bind, Except.bind] at h
            split at h
            · cases h
            · next cut =>
              cases h
              obtain ⟨field, behind, rfl, isField⟩ := Length.exists_isField found
              rw [← isField.1, List.drop_left] at cut
              obtain ⟨rfl, count⟩ := Octets.cut?_eq_some_iff.1 cut
              exact ⟨single, length, field, isField, count, by rw [List.append_assoc]⟩
  · rintro ⟨single, length, field, ⟨size, found⟩, count, rfl⟩
    simp only [read, single, Bool.false_eq_true, if_false, List.append_assoc, found, bind,
      Except.bind]
    rw [← size, List.drop_left, ← count, Octets.cut?_append]

end Element

end Ber

end LdapService

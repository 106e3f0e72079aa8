import Mathlib.Algebra.Group.Nat.Defs
import Mathlib.Data.List.Induction
import LdapService.Ber.Element

/-!
Length fields. They read back as they were written, whatever follows them, for every length
below 2^32. A field that is there does not change when more octets arrive, and no field for the
same length is shorter than the one that is written.
-/

namespace LdapService

namespace Octets

def Fits (octets : Octets) : Prop :=
  octets.length < 2 ^ 32

instance (octets : Octets) : Decidable (Fits octets) :=
  inferInstanceAs (Decidable (octets.length < 2 ^ 32))

theorem Fits.left {first second : Octets} (h : Fits (first ++ second)) : Fits first := by
  unfold Fits at *
  rw [List.length_append] at h
  omega

theorem Fits.right {first second : Octets} (h : Fits (first ++ second)) : Fits second := by
  unfold Fits at *
  rw [List.length_append] at h
  omega

theorem Fits.of_mem {α : Type} {write : α → Octets} {items : List α}
    (h : Fits (items.flatMap write)) {item : α} (mem : item ∈ items) : Fits (write item) := by
  obtain ⟨before, after, rfl⟩ := List.append_of_mem mem
  rw [List.flatMap_append, List.flatMap_cons] at h
  exact h.right.left

theorem toNat_lt (octets : Octets) : toNat octets < 256 ^ octets.length := by
  induction octets using List.reverseRecOn with
  | nil => decide
  | append_singleton front last ih =>
    have digit := last.toNat_lt
    simp only [toNat, List.foldl_append, List.foldl_cons, List.foldl_nil,
      List.length_append, List.length_singleton, pow_succ] at ih ⊢
    omega

end Octets

namespace Ber

namespace Length

theorem read_long {first : UInt8} {field : Octets} (rest : Octets)
    (count : first.toNat = 0x80 + field.length) (present : 0 < field.length)
    (few : field.length ≤ 4) :
    read (first :: field ++ rest) = .ok (some ⟨Octets.toNat field, 1 + field.length⟩) := by
  have long : ¬first < 0x80 := by
    rw [UInt8.lt_iff_toNat_lt, count]
    simp
  have definite : first ≠ 0x80 := by
    rintro rfl
    change 128 = _ at count
    omega
  have sub : first.toNat - 0x80 = field.length := by omega
  simp only [read, List.cons_append, long, definite, if_false, sub]
  rw [if_neg (by omega), Octets.cut?_append]

theorem read_write {value : Nat} (h : value < 2 ^ 32) (rest : Octets) :
    read (write value ++ rest) = .ok (some ⟨value, (write value).length⟩) := by
  unfold write
  simp only
  split
  · next low =>
    have small : UInt8.ofNat value < 0x80 := by
      rw [UInt8.lt_iff_toNat_lt, UInt8.toNat_ofNat']
      change value % 256 < 128
      omega
    simp [read, small]
    omega
  · split
    · rw [read_long rest (by rfl) (by simp) (by simp)]
      simp [Octets.toNat]
      omega
    · split
      · rw [read_long rest (by rfl) (by simp) (by simp)]
        simp [Octets.toNat]
        omega
      · split
        · rw [read_long rest (by rfl) (by simp) (by simp)]
          simp [Octets.toNat]
          omega
        · rw [read_long rest (by rfl) (by simp) (by simp)]
          simp [Octets.toNat]
          omega

theorem length_write_pos (value : Nat) : 0 < (write value).length := by
  unfold write
  simp only
  repeat' split
  all_goals simp

theorem length_write_le (value : Nat) : (write value).length ≤ 5 := by
  unfold write
  simp only
  repeat' split
  all_goals simp

theorem length_write_short {value : Nat} (h : value < 0x80) : (write value).length = 1 := by
  rw [write, if_pos h]
  rfl

theorem length_write_long {value : Nat} (h : 2 ^ 24 ≤ value) : (write value).length = 5 := by
  simp only [write]
  rw [if_neg (by omega), if_neg (by omega), if_neg (by omega), if_neg (by omega)]
  rfl

theorem getLast?_write (value : Nat) : (write value).getLast? = some (UInt8.ofNat value) := by
  unfold write
  simp only
  repeat' split
  all_goals simp

theorem length_of_write {value : Nat} {first : UInt8} {rest : Octets}
    (h : write value = first :: rest) :
    rest.length = if first < 0x80 then 0 else first.toNat - 0x80 := by
  unfold write at h
  simp only at h
  split at h
  · next low =>
    cases h
    have small : UInt8.ofNat (value / Nat.pow 256 0) < 0x80 := by
      rw [UInt8.lt_iff_toNat_lt, UInt8.toNat_ofNat']
      simp
      omega
    rw [if_pos small]
    rfl
  · repeat' split at h
    all_goals
      cases h
      simp

theorem mod_eq_of_write {value other : Nat} (h : write value = write other) :
    value % 0x100 = other % 0x100 := by
  have last := getLast?_write value
  rw [h, getLast?_write] at last
  have same := congrArg UInt8.toNat (Option.some.inj last)
  simpa [UInt8.toNat_ofNat'] using same.symm

theorem eq_of_write {value other : Nat} (low : other < 0x80) (h : write value = write other) :
    value = other := by
  have lowest := mod_eq_of_write h
  have one := length_write_short low
  rw [← h] at one
  have low' : value < 0x80 := by
    refine Nat.lt_of_not_le fun high => ?_
    unfold write at one
    simp only [Nat.not_lt.2 high, if_false] at one
    repeat' split at one
    all_goals simp at one
  omega

theorem write_append_inj {value other : Nat} {after after' : Octets}
    (h : write value ++ after = write other ++ after') :
    write value = write other ∧ after = after' := by
  obtain ⟨first, rest, here⟩ := List.exists_cons_of_length_pos (length_write_pos value)
  obtain ⟨first', rest', there⟩ := List.exists_cons_of_length_pos (length_write_pos other)
  have count := length_of_write here
  have count' := length_of_write there
  rw [here, there] at h ⊢
  obtain ⟨rfl, -⟩ := List.cons.inj h
  exact List.append_inj h (by rw [List.length_cons, List.length_cons, count, count'])

theorem read_append {input : Octets} {outcome : Except Error (Option Length)}
    (h : read input = outcome) (settled : outcome ≠ .ok none) (more : Octets) :
    read (input ++ more) = outcome := by
  subst h
  cases input with
  | nil => exact absurd rfl settled
  | cons first rest =>
    simp only [read, List.cons_append] at settled ⊢
    split
    · rfl
    · next long =>
      split
      · rfl
      · next definite =>
        split
        · rfl
        · next few =>
          simp only [long, definite, few, if_false] at settled
          cases cut : Octets.cut? (first.toNat - 0x80) rest with
          | none => exact absurd (by rw [cut]) settled
          | some parts =>
            obtain ⟨field, after⟩ := parts
            obtain ⟨rfl, count⟩ := Octets.cut?_eq_some_iff.1 cut
            rw [← count, List.append_assoc, Octets.cut?_append]

def IsField (length : Length) (field : Octets) : Prop :=
  field.length = length.size ∧ ∀ rest, read (field ++ rest) = .ok (some length)

theorem cases_of_read {input : Octets} {length : Length} (h : read input = .ok (some length)) :
    (∃ first rest, input = first :: rest ∧ first < 0x80 ∧ length = ⟨first.toNat, 1⟩) ∨
      ∃ first digits rest, input = first :: digits ++ rest ∧ first.toNat = 0x80 + digits.length ∧
        0 < digits.length ∧ digits.length ≤ 4 ∧
        length = ⟨Octets.toNat digits, 1 + digits.length⟩ := by
  cases input with
  | nil => cases h
  | cons first rest =>
    simp only [read] at h
    split at h
    · next short =>
      cases h
      exact .inl ⟨first, rest, rfl, short, rfl⟩
    · next long =>
      split at h
      · cases h
      · next definite =>
        split at h
        · cases h
        · next few =>
          split at h
          · cases h
          · next digits after cut =>
            cases h
            obtain ⟨rfl, count⟩ := Octets.cut?_eq_some_iff.1 cut
            rw [UInt8.lt_iff_toNat_lt] at long
            change ¬first.toNat < 128 at long
            have other : first.toNat ≠ 128 := fun same => definite (UInt8.toNat_inj.1 same)
            refine .inr ⟨first, digits, after, rfl, ?_, ?_, ?_, ?_⟩
            · omega
            · omega
            · omega
            · rw [count]

theorem exists_isField {input : Octets} {length : Length} (h : read input = .ok (some length)) :
    ∃ field rest, input = field ++ rest ∧ length.IsField field := by
  rcases cases_of_read h with ⟨first, rest, rfl, short, rfl⟩ |
    ⟨first, digits, rest, rfl, count, present, few, rfl⟩
  · exact ⟨[first], rest, rfl, rfl, fun _ => by simp [read, short]⟩
  · refine ⟨first :: digits, rest, rfl, ?_, fun more => read_long more count present few⟩
    rw [List.length_cons, Nat.add_comm]

/-- A part of a field is not yet a field, and not wrong either. -/
theorem IsField.read_front {length : Length} {field front : Octets} (isField : length.IsField field)
    (begins : front <+: field) (part : front ≠ field) : read front = .ok none := by
  obtain ⟨rest, rfl⟩ := begins
  have whole : read (front ++ rest) = .ok (some length) := by
    simpa using isField.2 []
  by_cases settled : read front = .ok none
  · exact settled
  · have found : read front = .ok (some length) := by
      rw [← whole, read_append rfl settled]
    obtain ⟨field, after, rfl, again⟩ := exists_isField found
    -- the field would be as long as the one it is a part of
    have longer := isField.1
    rw [← again.1, List.length_append, List.length_append] at longer
    have nothing : rest = [] := List.length_eq_zero_iff.1 (by omega)
    exact absurd (by rw [nothing, List.append_nil]) part

theorem length_lt_of_read_none {input : Octets} (h : read input = .ok none) : input.length < 5 := by
  cases input with
  | nil => exact Nat.succ_pos 4
  | cons first rest =>
    simp only [read] at h
    split at h
    · cases h
    · split at h
      · cases h
      · split at h
        · cases h
        · next few =>
          split at h
          · next missing =>
            have short := Octets.cut?_eq_none_iff.1 missing
            rw [List.length_cons]
            omega
          · cases h

theorem bounds_of_read {input : Octets} {length : Length} (h : read input = .ok (some length)) :
    1 ≤ length.size ∧ length.size ≤ 5 ∧ length.value < 2 ^ 32 := by
  rcases cases_of_read h with ⟨first, rest, rfl, short, rfl⟩ |
    ⟨first, digits, rest, rfl, count, present, few, rfl⟩
  · have octet := first.toNat_lt
    simp only
    omega
  · have counted := Octets.toNat_lt digits
    have most : 256 ^ digits.length ≤ 256 ^ 4 := Nat.pow_le_pow_right (by omega) few
    simp only
    omega

/-- A tag, the field behind it and what that counts stay within a word. -/
theorem word_sums_of_read {input : Octets} {length : Length}
    (h : read input = .ok (some length)) :
    ((1 : UInt64) + .ofNat length.size).toNat = 1 + length.size ∧
      ((1 : UInt64) + .ofNat length.size + .ofNat length.value).toNat =
        1 + length.size + length.value := by
  obtain ⟨-, few, small⟩ := bounds_of_read h
  have header : ((1 : UInt64) + .ofNat length.size).toNat = 1 + length.size := by
    rw [UInt64.toNat_add, UInt64.toNat_ofNat']
    change (1 + length.size % 2 ^ 64) % 2 ^ 64 = _
    omega
  refine ⟨header, ?_⟩
  rw [UInt64.toNat_add, header, UInt64.toNat_ofNat']
  omega

theorem length_write_le_digits {value count : Nat} (present : 0 < count)
    (h : value < 256 ^ count) : (write value).length ≤ 1 + count := by
  match count, present with
  | 1, _ | 2, _ | 3, _ =>
    unfold write
    simp only
    repeat' split
    all_goals
      simp only [List.length_cons, List.length_nil]
      omega
  | count + 4, _ =>
    have most := length_write_le value
    omega

/-- No field for a length is shorter than the written one. -/
theorem length_write_le_size {input : Octets} {length : Length}
    (h : read input = .ok (some length)) : (write length.value).length ≤ length.size := by
  rcases cases_of_read h with ⟨first, rest, rfl, short, rfl⟩ |
    ⟨first, digits, rest, rfl, count, present, few, rfl⟩
  · exact Nat.le_of_eq (length_write_short (UInt8.lt_iff_toNat_lt.1 short))
  · exact length_write_le_digits present (Octets.toNat_lt digits)

theorem read_congr {input other : Octets} {length : Length} (h : read input = .ok (some length))
    (same : other.take length.size = input.take length.size) :
    read other = .ok (some length) := by
  obtain ⟨field, rest, rfl, size, found⟩ := exists_isField h
  rw [← size, List.take_left] at same
  rw [← List.take_append_drop field.length other, same]
  exact found _

/-- The field of a length is read as that length whatever follows it, and it is the shortest
one. Whatever is read as a length at all is below 2^32, in one to five octets, and nothing but
these octets decides. -/
theorem written_field_shortest :
    (∀ {value : Nat}, value < 2 ^ 32 → ∀ rest : Octets,
      read (write value ++ rest) = .ok (some ⟨value, (write value).length⟩)) ∧
    (∀ {input : Octets} {value size : Nat}, read input = .ok (some ⟨value, size⟩) →
      (write value).length ≤ size ∧ size ≤ input.length) ∧
    ∀ {input : Octets} {length : Length}, read input = .ok (some length) →
      length.value < 2 ^ 32 ∧ 1 ≤ length.size ∧ length.size ≤ 5 ∧
        ∀ other : Octets, other.take length.size = input.take length.size →
          read other = read input := by
  refine ⟨read_write, ?_, ?_⟩
  · intro input value size found
    obtain ⟨field, rest, rfl, count, -⟩ := exists_isField found
    refine ⟨length_write_le_size found, ?_⟩
    rw [List.length_append, count]
    exact Nat.le_add_right _ _
  · intro input length found
    obtain ⟨present, few, small⟩ := bounds_of_read found
    refine ⟨small, present, few, fun other same => ?_⟩
    rw [found, read_congr found same]

end Length

end Ber

end LdapService

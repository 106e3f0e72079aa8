import LdapService.Text.Utf8

/-!
Texts are in the same order as their octets. A character is its digits to the
base 64 behind a first octet that tells how many there are, and longer forms
belong to higher characters; so the first octets that differ decide as the first
characters that differ do.
-/

namespace LdapService.Text

theorem utf8_eq_flatMap (text : String) :
    utf8 text = text.toList.flatMap String.utf8EncodeChar := by
  rw [utf8, ← String.utf8Encode_toList]
  simp [List.utf8Encode]

inductive IsEncoding (value : Nat) : Octets → Prop
  | one (small : value < 128) : IsEncoding value [UInt8.ofNat value]
  | two {a b : Nat} (digits : value = a * 64 + b) (low : 2 ≤ a) (high : a < 32) (second : b < 64) :
      IsEncoding value [UInt8.ofNat (a + 192), UInt8.ofNat (b + 128)]
  | three {a b c : Nat} (digits : value = (a * 64 + b) * 64 + c) (low : 32 ≤ a * 64 + b)
      (high : a < 16) (second : b < 64) (third : c < 64) :
      IsEncoding value [UInt8.ofNat (a + 224), UInt8.ofNat (b + 128), UInt8.ofNat (c + 128)]
  | four {a b c d : Nat} (digits : value = ((a * 64 + b) * 64 + c) * 64 + d)
      (low : 16 ≤ a * 64 + b) (high : a < 8) (second : b < 64) (third : c < 64) (fourth : d < 64) :
      IsEncoding value
        [UInt8.ofNat (a + 240), UInt8.ofNat (b + 128), UInt8.ofNat (c + 128), UInt8.ofNat (d + 128)]

theorem isEncoding (char : Char) : IsEncoding char.val.toNat (String.utf8EncodeChar char) := by
  have bound : char.val.toNat < 0x110000 := by
    rcases char.valid with low | ⟨_, high⟩
    · exact Nat.lt_trans low (by decide)
    · exact high
  unfold String.utf8EncodeChar
  generalize char.val.toNat = value at bound
  simp only
  split
  · exact .one (by omega)
  · split
    · exact .two (by omega) (by omega) (by omega) (by omega)
    · split
      · exact .three (by omega) (by omega) (by omega) (by omega) (by omega)
      · exact .four (by omega) (by omega) (by omega) (by omega) (by omega) (by omega)

theorem IsEncoding.ne_nil {value : Nat} {octets : Octets} (h : IsEncoding value octets) :
    octets ≠ [] := by
  cases h <;> exact List.cons_ne_nil _ _

theorem ofNat_cons_lt {a b : Nat} (h : a < 256) (h' : b < 256) {first second : Octets} :
    UInt8.ofNat a :: first < UInt8.ofNat b :: second ↔ a < b ∨ a = b ∧ first < second := by
  rw [List.cons_lt_cons_iff, UInt8.lt_iff_toNat_lt, ← UInt8.toNat_inj, UInt8.toNat_ofNat',
    UInt8.toNat_ofNat', Nat.mod_eq_of_lt h, Nat.mod_eq_of_lt h']

theorem IsEncoding.lt {a b : Nat} {one other : Octets} (h : IsEncoding a one)
    (h' : IsEncoding b other) (below : a < b) (first second : Octets) :
    one ++ first < other ++ second := by
  cases h <;> cases h' <;>
    simp (disch := omega) only [List.cons_append, ofNat_cons_lt] <;> omega

theorem utf8_lt {one other : String} (h : one < other) : utf8 one < utf8 other := by
  rw [utf8_eq_flatMap, utf8_eq_flatMap]
  rw [String.lt_iff] at h
  generalize one.toList = first at h
  generalize other.toList = second at h
  induction h with
  | @nil char rest =>
    obtain ⟨lead, more, encoded⟩ := List.exists_cons_of_ne_nil (isEncoding char).ne_nil
    rw [List.flatMap_nil, List.flatMap_cons, encoded]
    exact List.nil_lt_cons _ _
  | rel lt => exact (isEncoding _).lt (isEncoding _) lt _ _
  | cons rest ih =>
    rw [List.flatMap_cons, List.flatMap_cons]
    exact List.append_left_lt ih

end LdapService.Text

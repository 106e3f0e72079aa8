import Mathlib.Data.Nat.Digits.Defs
import LdapService.Proofs.Text.OctetOrder

/-!
How many octets a text takes: no more than four for each character. So what a number or a tag
adds to a sentence is bounded by the letters that it is spelled with.
-/

namespace LdapService.Text

def size (text : String) : Nat :=
  (utf8 text).length

theorem size_append (first second : String) :
    size (first ++ second) = size first + size second :=
  String.utf8ByteSize_append

theorem size_append_le {front back : String} {first second : Nat} (begins : size front ≤ first)
    (ends : size back ≤ second) : size (front ++ back) ≤ first + second :=
  (size_append front back).trans_le (Nat.add_le_add begins ends)

theorem size_le (text : String) : size text ≤ 4 * text.length := by
  rw [size, utf8_eq_flatMap, ← String.length_toList]
  induction text.toList with
  | nil => exact Nat.le_refl _
  | cons letter rest ih =>
    have four : (String.utf8EncodeChar letter).length ≤ 4 := by
      rw [String.length_utf8EncodeChar]
      exact letter.utf8Size_le_four
    rw [List.flatMap_cons, List.length_append, List.length_cons]
    omega

theorem size_hex_le (octet : UInt8) : size (Octets.hex octet) ≤ 8 := by
  have letters := size_le (Octets.hex octet)
  rwa [Octets.hex, String.length_ofList] at letters

theorem size_natRepr_le {number digits : Nat} (present : 0 < digits)
    (small : number < 10 ^ digits) : size (toString number) ≤ 4 * digits :=
  (size_le _).trans (Nat.mul_le_mul_left 4 (Nat.repr_length number digits present small))

theorem size_intRepr_le {number : Int} (low : -2 ^ 63 ≤ number) (high : number < 2 ^ 63) :
    size (toString number) ≤ 80 := by
  cases number with
  | ofNat magnitude =>
    have small : magnitude < 2 ^ 63 := Int.ofNat_lt.1 high
    have digits : size (toString magnitude) ≤ 4 * 19 := size_natRepr_le (by decide) (by omega)
    exact digits.trans (by decide)
  | negSucc magnitude =>
    have digits : size (toString (magnitude + 1)) ≤ 4 * 19 :=
      size_natRepr_le (by decide) (by omega)
    have sign : size "-" = 1 := by decide
    change size ("-" ++ toString (magnitude + 1)) ≤ 80
    rw [size_append]
    omega

def IsBrief (text : String) : Prop :=
  size text ≤ 128

instance (text : String) : Decidable (IsBrief text) :=
  inferInstanceAs (Decidable (size text ≤ 128))

end LdapService.Text

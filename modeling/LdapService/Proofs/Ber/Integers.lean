import Mathlib.Algebra.Group.Int.Defs
import LdapService.Ber.Integer

/-!
Integers read back as they were written: all that eight octets hold in two's
complement. The reader starts from the sign in the first octet and takes the
others as digits, so the induction is on what is already written behind.
-/

namespace LdapService.Ber.Integer

def sign : Octets → Int
  | [] => 0
  | first :: _ => if first < 0x80 then 0 else -1

def push (value : Int) (octet : UInt8) : Int :=
  value * 256 + octet.toNat

theorem foldl_writeBefore (rest : Octets) (value : Int) :
    (writeBefore rest value).foldl push (sign (writeBefore rest value)) =
      rest.foldl push value := by
  fun_induction writeBefore rest value with
  | case1 rest value octets inside =>
    have first : push (sign octets) (UInt8.ofNat (value % 256).toNat) = value := by
      simp only [octets, sign, push, UInt8.lt_iff_toNat_lt, UInt8.toNat_ofNat']
      change (if (value % 256).toNat % 256 < 128 then 0 else -1) * 256 + _ = value
      split <;> omega
    rw [List.foldl_cons, first]
  | case2 rest value octets outside ih =>
    rw [ih, List.foldl_cons]
    congr 1
    simp only [push, UInt8.toNat_ofNat']
    omega

theorem writeBefore_ne_nil (rest : Octets) (value : Int) : writeBefore rest value ≠ [] := by
  fun_induction writeBefore rest value with
  | case1 => exact List.cons_ne_nil _ _
  | case2 rest value octets outside ih => exact ih

theorem length_writeBefore_le (count : Nat) (rest : Octets) (value : Int)
    (low : -(128 * 256 ^ count) ≤ value) (high : value < 128 * 256 ^ count) :
    (writeBefore rest value).length ≤ rest.length + count + 1 := by
  induction count generalizing rest value with
  | zero =>
    rw [writeBefore, if_pos (by omega)]
    exact Nat.le_refl _
  | succ count ih =>
    rw [writeBefore]
    split
    · rw [List.length_cons]
      omega
    · rw [Int.pow_succ] at low high
      have shorter := ih (UInt8.ofNat (value % 256).toNat :: rest) (value / 256) (by omega) (by omega)
      rw [List.length_cons] at shorter
      omega

theorem read_write {value : Int} (low : -2 ^ 63 ≤ value) (high : value < 2 ^ 63) :
    read (write value) = .ok value := by
  have short := length_writeBefore_le 7 [] value (by omega) (by omega)
  have same := foldl_writeBefore [] value
  have present := writeBefore_ne_nil [] value
  unfold write
  generalize writeBefore [] value = octets at short same present
  cases octets with
  | nil => exact absurd rfl present
  | cons first rest =>
    have few : ¬8 < (first :: rest).length := by
      simpa using short
    simp only [read, few, if_false]
    exact congrArg Except.ok same

end LdapService.Ber.Integer

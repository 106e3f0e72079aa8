import Mathlib.Data.List.Induction
import LdapService.Proofs.Ber.Integers

/-!
Integers in their shortest form. Octets of any count stand for a number, and leading ones that
only repeat the sign can be dropped; what is left is what the number is written as. So of all
octets that are read as a number the written ones are the fewest. Numbers are read in words of
64 bits, into which the octets are shifted, and no bit that matters is shifted out.
-/

namespace LdapService

namespace Octets

def bitsOf (octet : UInt8) : List Bool :=
  (List.range 8).map octet.toBitVec.getMsbD

def bits (octets : Octets) : List Bool :=
  octets.flatMap bitsOf

theorem length_bits (octets : Octets) : octets.bits.length = 8 * octets.length := by
  induction octets with
  | nil => rfl
  | cons octet rest ih =>
    rw [bits, List.flatMap_cons, List.length_append, List.length_cons, Nat.mul_succ, ← ih,
      Nat.add_comm]
    rfl

end Octets

namespace Ber.Integer

def value (octets : Octets) : Int :=
  octets.foldl push (sign octets)

def isRedundant (first second : UInt8) : Bool :=
  first == 0x00 && second < 0x80 || first == 0xff && 0x80 ≤ second

/-- Drops the leading octets that are redundant. -/
def strip : Octets → Octets
  | first :: second :: rest =>
      if isRedundant first second then strip (second :: rest) else first :: second :: rest
  | octets => octets

def IsMinimal : Octets → Prop
  | first :: second :: _ => isRedundant first second = false
  | _ => True

theorem isRedundant_iff {first second : UInt8} : isRedundant first second = true ↔
    first.toNat = 0 ∧ second.toNat < 128 ∨ first.toNat = 255 ∧ 128 ≤ second.toNat := by
  simp only [isRedundant, Bool.or_eq_true, Bool.and_eq_true, beq_iff_eq, decide_eq_true_eq,
    ← UInt8.toNat_inj, UInt8.lt_iff_toNat_lt, UInt8.le_iff_toNat_le]
  rfl

theorem read_eq_ok_iff {octets : Octets} {number : Int} : read octets = .ok number ↔
    octets ≠ [] ∧ octets.length ≤ 8 ∧ number = value octets := by
  cases octets with
  | nil => simp [read]
  | cons first rest =>
    simp only [read]
    split
    · next long =>
      refine iff_of_false ?_ fun short => ?_
      · intro same
        cases same
      · exact absurd short.2.1 (Nat.not_le.2 long)
    · next short =>
      simp only [Except.ok.injEq, ne_eq, reduceCtorEq, not_false_eq_true, true_and,
        Nat.not_lt.1 short]
      exact eq_comm

theorem value_singleton (octet : UInt8) : value [octet] =
    if octet.toNat < 128 then (octet.toNat : Int) else octet.toNat - 256 := by
  simp only [value, sign, push, List.foldl_cons, List.foldl_nil, UInt8.lt_iff_toNat_lt]
  change (if octet.toNat < 128 then 0 else -1) * 256 + _ = _
  split <;> omega

theorem value_append_singleton {front : Octets} (nonempty : front ≠ []) (last : UInt8) :
    value (front ++ [last]) = push (value front) last := by
  obtain ⟨first, rest, rfl⟩ := List.exists_cons_of_ne_nil nonempty
  rw [value, List.foldl_append]
  rfl

theorem value_of_redundant {first second : UInt8} (redundant : isRedundant first second = true)
    (rest : Octets) : value (first :: second :: rest) = value (second :: rest) := by
  have same : push (sign (first :: second :: rest)) first = sign (second :: rest) := by
    simp only [sign, push, UInt8.lt_iff_toNat_lt]
    change (if first.toNat < 128 then 0 else -1) * 256 + (first.toNat : Int) =
      if second.toNat < 128 then 0 else -1
    rcases isRedundant_iff.1 redundant with ⟨zero, low⟩ | ⟨ones, high⟩
    · rw [if_pos (by omega), if_pos low, zero]
      rfl
    · rw [if_neg (by omega), if_neg (by omega), ones]
      rfl
  rw [value, List.foldl_cons, same]
  rfl

theorem value_strip (octets : Octets) : value (strip octets) = value octets := by
  fun_induction strip octets with
  | case1 first second rest redundant ih => rw [ih, value_of_redundant redundant]
  | case2 => rfl
  | case3 => rfl

theorem strip_isMinimal (octets : Octets) : IsMinimal (strip octets) := by
  fun_induction strip octets with
  | case1 first second rest redundant ih => exact ih
  | case2 first second rest other => exact eq_false_of_ne_true other
  | case3 octets short =>
    unfold IsMinimal
    split
    · exact absurd rfl (short _ _ _)
    · trivial

theorem strip_ne_nil {octets : Octets} (nonempty : octets ≠ []) : strip octets ≠ [] := by
  fun_induction strip octets with
  | case1 first second rest redundant ih => exact ih (List.cons_ne_nil _ _)
  | case2 => exact nonempty
  | case3 => exact nonempty

theorem strip_suffix (octets : Octets) : strip octets <:+ octets := by
  fun_induction strip octets with
  | case1 first second rest redundant ih => exact ih.trans (List.suffix_cons first _)
  | case2 => exact List.suffix_refl _
  | case3 => exact List.suffix_refl _

theorem strip_eq_self_iff {octets : Octets} : strip octets = octets ↔ IsMinimal octets := by
  constructor
  · intro same
    rw [← same]
    exact strip_isMinimal octets
  · intro minimal
    unfold strip
    split
    · rw [if_neg (by rw [minimal]; exact Bool.false_ne_true)]
    · rfl

theorem IsMinimal.front {front : Octets} {last : UInt8} (minimal : IsMinimal (front ++ [last])) :
    IsMinimal front := by
  match front, minimal with
  | [], _ => trivial
  | [_], _ => trivial
  | _ :: _ :: _, minimal => exact minimal

theorem value_outside {front : Octets} (nonempty : front ≠ []) {last : UInt8}
    (minimal : IsMinimal (front ++ [last])) :
    value (front ++ [last]) < -128 ∨ 128 ≤ value (front ++ [last]) := by
  induction front using List.reverseRecOn generalizing last with
  | nil => exact absurd rfl nonempty
  | append_singleton front next ih =>
    have octet := last.toNat_lt
    have digit := next.toNat_lt
    rw [value_append_singleton nonempty, push]
    by_cases alone : front = []
    · subst alone
      have needed : ¬(next.toNat = 0 ∧ last.toNat < 128 ∨ next.toNat = 255 ∧ 128 ≤ last.toNat) := by
        rw [← isRedundant_iff, Bool.not_eq_true]
        exact minimal
      rw [List.nil_append, value_singleton]
      split <;> omega
    · have before := ih alone minimal.front
      omega

theorem writeBefore_value {octets : Octets} (nonempty : octets ≠ []) (minimal : IsMinimal octets)
    (rest : Octets) : writeBefore rest (value octets) = octets ++ rest := by
  -- from the last octet on, as the writer goes; what is in front stays minimal
  induction octets using List.reverseRecOn generalizing rest with
  | nil => exact absurd rfl nonempty
  | append_singleton front last ih =>
    have octet := last.toNat_lt
    rw [writeBefore]
    by_cases alone : front = []
    · subst alone
      rw [List.nil_append, value_singleton]
      have same : UInt8.ofNat ((if last.toNat < 128 then (last.toNat : Int) else last.toNat - 256) %
          256).toNat = last := by
        rw [← UInt8.toNat_inj, UInt8.toNat_ofNat']
        split <;> omega
      rw [same, if_pos (by split <;> omega)]
      rfl
    · have outside := value_outside alone minimal
      rw [if_neg (by omega), value_append_singleton alone]
      have digit : UInt8.ofNat (push (value front) last % 256).toNat = last := by
        rw [← UInt8.toNat_inj, UInt8.toNat_ofNat', push]
        omega
      have before : push (value front) last / 256 = value front := by
        rw [push]
        omega
      rw [digit, before, ih alone minimal.front, List.append_assoc]
      rfl

/-- Written again, a number has the octets that it had but for the redundant ones. -/
theorem write_value {octets : Octets} (nonempty : octets ≠ []) :
    write (value octets) = strip octets := by
  have same := writeBefore_value (strip_ne_nil nonempty) (strip_isMinimal octets) []
  rwa [value_strip, List.append_nil] at same

section Bits

def StartsUniform (octets : Octets) : Prop :=
  ∃ bit, octets.bits.take 9 = List.replicate 9 bit

theorem bitsOf_eq_replicate_iff {octet : UInt8} {bit : Bool} :
    Octets.bitsOf octet = List.replicate 8 bit ↔ octet = if bit then 0xff else 0x00 := by
  constructor
  · intro same
    have all := (List.eq_replicate_iff.1 same).2
    have there : ∀ place < 8, (if bit then 0xff else 0x00 : UInt8).toBitVec.getMsbD place = bit := by
      cases bit <;> decide
    rw [← UInt8.toBitVec_inj]
    refine BitVec.eq_of_getMsbD_eq fun place inside => ?_
    rw [there place inside]
    exact all _ (List.mem_map_of_mem (List.mem_range.2 inside))
  · rintro rfl
    cases bit <;> decide

theorem msb_eq (octet : UInt8) : octet.toBitVec.getMsbD 0 = decide (128 ≤ octet.toNat) :=
  BitVec.msb_eq_decide octet.toBitVec

theorem startsUniform_iff {first second : UInt8} (rest : Octets) :
    StartsUniform (first :: second :: rest) ↔ isRedundant first second = true := by
  have nine : (Octets.bits (first :: second :: rest)).take 9 =
      Octets.bitsOf first ++ [second.toBitVec.getMsbD 0] := rfl
  have alike (bit : Bool) : Octets.bitsOf first ++ [second.toBitVec.getMsbD 0] =
      List.replicate 9 bit ↔
        first = (if bit then 0xff else 0x00) ∧ decide (128 ≤ second.toNat) = bit := by
    rw [List.replicate_succ', ← bitsOf_eq_replicate_iff, ← msb_eq]
    constructor
    · intro same
      obtain ⟨front, last⟩ := List.append_inj' same rfl
      exact ⟨front, List.singleton_inj.1 last⟩
    · rintro ⟨front, last⟩
      rw [front, last]
  rw [isRedundant_iff, StartsUniform, nine]
  simp only [alike, Bool.exists_bool, ← UInt8.toNat_inj, decide_eq_false_iff_not,
    decide_eq_true_eq, Nat.not_le]
  rfl

theorem isMinimal_iff (octets : Octets) : IsMinimal octets ↔ ¬StartsUniform octets := by
  match octets with
  | [] | [_] =>
    refine iff_of_true trivial ?_
    rintro ⟨bit, same⟩
    have enough := congrArg List.length same
    rw [List.length_take, Octets.length_bits, List.length_replicate] at enough
    simp at enough
  | first :: second :: rest =>
    rw [startsUniform_iff, Bool.not_eq_true]
    exact Iff.rfl

end Bits

section Words

/-- One octet pushed into a word of 64 bits. What is shifted out at the top is lost. -/
def pushWord (word : Int64) (octet : UInt8) : Int64 :=
  word <<< 8 ||| octet.toUInt64.toInt64

theorem toBitVec_shift (word : Int64) : (word <<< 8).toBitVec = word.toBitVec <<< 8 := by
  rw [Int64.toBitVec_shiftLeft]
  rfl

theorem toInt_shift {word : Int64} (low : -2 ^ 55 ≤ word.toInt) (high : word.toInt < 2 ^ 55) :
    (word <<< 8).toInt = word.toInt * 256 := by
  have unsigned : word.toInt = word.toBitVec.toInt := rfl
  have shifted : (word <<< 8).toInt = (word <<< 8).toBitVec.toInt := rfl
  rw [shifted, toBitVec_shift, BitVec.toInt_shiftLeft]
  rw [unsigned] at low high ⊢
  rw [BitVec.toInt_eq_toNat_cond] at *
  rw [Int.bmod_def]
  have bound := word.toBitVec.isLt
  simp only [Nat.shiftLeft_eq]
  split at low <;> omega

theorem unshift {word : Int64} (low : -2 ^ 55 ≤ word.toInt) (high : word.toInt < 2 ^ 55) :
    word <<< 8 >>> 8 = word := by
  rw [← Int64.toInt_inj]
  have shifted : (word <<< 8 >>> 8).toInt = (word <<< 8).toInt >>> (8 : Nat) := by
    have arithmetic : (word <<< 8 >>> 8).toInt = ((word <<< 8).toBitVec.sshiftRight 8).toInt := rfl
    rw [arithmetic, BitVec.toInt_sshiftRight]
    rfl
  rw [shifted, toInt_shift low high, Int.shiftRight_eq_div_pow]
  exact Int.mul_ediv_cancel _ (by decide)

theorem toInt_pushWord {word : Int64} (low : -2 ^ 55 ≤ word.toInt) (high : word.toInt < 2 ^ 55)
    (octet : UInt8) : (pushWord word octet).toInt = push word.toInt octet := by
  have bound := octet.toNat_lt
  -- the shifted word and the octet have no bit in common, so `or` adds them
  have apart : (word <<< 8).toBitVec &&& octet.toUInt64.toInt64.toBitVec = 0#64 := by
    rw [toBitVec_shift]
    ext bit inside
    by_cases low : bit < 8
    · simp [low]
    · simp [BitVec.getLsbD_of_ge octet.toBitVec bit (Nat.not_lt.1 low)]
  have sum : pushWord word octet = word <<< 8 + octet.toUInt64.toInt64 := by
    rw [← Int64.toBitVec_inj, Int64.toBitVec_add, BitVec.add_eq_or_of_and_eq_zero _ _ apart]
    rfl
  have digit : octet.toUInt64.toInt64.toInt = octet.toNat := by
    have unsigned : octet.toUInt64.toInt64.toInt = octet.toUInt64.toBitVec.toInt := rfl
    have widened : octet.toUInt64.toBitVec.toNat = octet.toNat := octet.toNat_toUInt64
    rw [unsigned, BitVec.toInt_eq_toNat_cond, widened, if_pos (by omega)]
  rw [sum, Int64.toInt_add, toInt_shift low high, digit, push, Int.bmod_def]
  omega

def signWord : Octets → Int64
  | [] => 0
  | first :: _ => if first < 0x80 then 0 else -1

def readWord (octets : Octets) : Except Error Int64 :=
  if octets = [] ∨ 8 < octets.length then .error .invalidInteger
  else .ok (octets.foldl pushWord (signWord octets))

def octetAt (word : Int64) (place : Nat) : UInt8 :=
  .ofBitVec ((word.toBitVec.sshiftRight (8 * place)).setWidth 8)

def bigEndian (word : Int64) : Octets :=
  [7, 6, 5, 4, 3, 2, 1, 0].map (octetAt word)

theorem value_small {octets : Octets} (nonempty : octets ≠ []) (count : Nat)
    (short : octets.length ≤ count + 1) :
    -(128 * 256 ^ count) ≤ value octets ∧ value octets < 128 * 256 ^ count := by
  induction octets using List.reverseRecOn generalizing count with
  | nil => exact absurd rfl nonempty
  | append_singleton front last ih =>
    have octet := last.toNat_lt
    by_cases alone : front = []
    · subst alone
      have one : (0 : Int) < 256 ^ count := Int.pow_pos (by decide)
      rw [List.nil_append, value_singleton]
      split <;> omega
    · have present := List.length_pos_iff.2 alone
      rw [List.length_append, List.length_singleton] at short
      obtain ⟨count, rfl⟩ := Nat.exists_eq_add_one.2 (show 0 < count by omega)
      have before := ih alone count (by omega)
      rw [value_append_singleton alone, push, Int.pow_succ]
      omega

theorem toInt_signWord (octets : Octets) : (signWord octets).toInt = sign octets := by
  cases octets with
  | nil => rfl
  | cons first rest =>
    simp only [signWord, sign]
    split <;> rfl

theorem sign_small (octets : Octets) : -1 ≤ sign octets ∧ sign octets ≤ 0 := by
  cases octets with
  | nil => decide
  | cons first rest =>
    simp only [sign]
    split <;> decide

/-- As long as an octet is to come, the word has room for it. -/
theorem fold_small {front rest : Octets} (room : front.length < 8)
    (same : (front.foldl pushWord (signWord (front ++ rest))).toInt =
      front.foldl push (sign (front ++ rest))) :
    -2 ^ 55 ≤ (front.foldl pushWord (signWord (front ++ rest))).toInt ∧
      (front.foldl pushWord (signWord (front ++ rest))).toInt < 2 ^ 55 := by
  rw [same]
  by_cases none : front = []
  · subst none
    have small := sign_small rest
    rw [List.foldl_nil, List.nil_append]
    omega
  · obtain ⟨first, later, rfl⟩ := List.exists_cons_of_ne_nil none
    exact value_small none 6 (Nat.le_of_lt_succ room)

theorem toInt_fold {front : Octets} (rest : Octets) (short : front.length ≤ 8) :
    (front.foldl pushWord (signWord (front ++ rest))).toInt =
      front.foldl push (sign (front ++ rest)) := by
  induction front using List.reverseRecOn generalizing rest with
  | nil => exact toInt_signWord _
  | append_singleton front last ih =>
    rw [List.length_append, List.length_singleton] at short
    have before := ih (last :: rest) (by omega)
    obtain ⟨low, high⟩ := fold_small (by omega) before
    rw [List.append_assoc, List.foldl_append, List.foldl_append]
    exact (toInt_pushWord low high last).trans (by rw [before]; rfl)

theorem exists_word {octets : Octets} (nonempty : octets ≠ []) (short : octets.length ≤ 8) :
    ∃ word, readWord octets = .ok word ∧ word.toInt = value octets := by
  have refused : ¬(octets = [] ∨ 8 < octets.length) :=
    not_or.2 ⟨nonempty, Nat.not_lt.2 short⟩
  have same := toInt_fold [] short
  rw [List.append_nil] at same
  exact ⟨_, if_neg refused, same⟩

theorem read_eq_readWord (octets : Octets) :
    read octets = (readWord octets).map Int64.toInt := by
  by_cases accepted : octets ≠ [] ∧ octets.length ≤ 8
  · obtain ⟨word, read, same⟩ := exists_word accepted.1 accepted.2
    rw [read, read_eq_ok_iff.2 ⟨accepted.1, accepted.2, same⟩]
    rfl
  · have refused : octets = [] ∨ 8 < octets.length := by
      by_contra other
      rw [not_or, Nat.not_lt] at other
      exact accepted other
    rw [readWord, if_pos refused]
    cases octets with
    | nil => rfl
    | cons first rest =>
      simp only [read, refused.resolve_left (List.cons_ne_nil _ _), if_true]
      rfl

theorem toNat_octetAt (word : Int64) (place : Nat) :
    ((octetAt word place).toNat : Int) = word.toInt / 256 ^ place % 256 := by
  have shifted : (word.toBitVec.sshiftRight (8 * place)).toInt = word.toInt / 256 ^ place := by
    rw [BitVec.toInt_sshiftRight, Int.shiftRight_eq_div_pow, Nat.pow_mul]
    rfl
  rw [← shifted, BitVec.toInt_eq_toNat_cond, octetAt, UInt8.toNat_ofBitVec, BitVec.toNat_setWidth]
  split <;> omega

theorem push_octetAt (word : Int64) (place : Nat) :
    push (word.toInt / 256 ^ (place + 1)) (octetAt word place) = word.toInt / 256 ^ place := by
  rw [push, toNat_octetAt, Int.pow_succ, ← Int.ediv_ediv_of_nonneg (Int.pow_nonneg (by decide))]
  omega

theorem sign_bigEndian (word : Int64) : sign (bigEndian word) = word.toInt / 256 ^ 8 := by
  have highest := toNat_octetAt word 7
  have low := word.le_toInt
  have high := word.toInt_lt
  simp only [bigEndian, List.map_cons, sign, UInt8.lt_iff_toNat_lt]
  change (if (octetAt word 7).toNat < 128 then 0 else -1) = _
  split <;> omega

theorem value_bigEndian (word : Int64) : value (bigEndian word) = word.toInt := by
  rw [value, sign_bigEndian]
  simp only [bigEndian, List.map_cons, List.map_nil, List.foldl_cons, List.foldl_nil]
  rw [push_octetAt, push_octetAt, push_octetAt, push_octetAt, push_octetAt, push_octetAt,
    push_octetAt, push_octetAt]
  exact Int.ediv_one _

/-- What is shifted out when an octet is pushed is the sign and nothing else. -/
theorem unshift_fold {front rest : Octets} (present : rest ≠ [])
    (short : (front ++ rest).length ≤ 8) :
    (front.foldl pushWord (signWord (front ++ rest))) <<< 8 >>> 8 =
      front.foldl pushWord (signWord (front ++ rest)) := by
  have more := List.length_pos_iff.2 present
  rw [List.length_append] at short
  have before := toInt_fold rest (show front.length ≤ 8 by omega)
  obtain ⟨low, high⟩ := fold_small (by omega) before
  exact unshift low high

end Words

/-- Numbers of 64 bits are written in their shortest two's complement, in one to eight octets,
and read back. Octets that are read and written again lose what only repeats the sign, and that
is nothing exactly if their first nine bits are not all the same. The reader works in words, and
whenever another octet is to come, the word has room for it. -/
theorem shortest_twos_complement :
    (∀ word : Int64, read (write word.toInt) = .ok word.toInt ∧
      1 ≤ (write word.toInt).length ∧ (write word.toInt).length ≤ 8 ∧
      write word.toInt = strip (bigEndian word) ∧
      ∀ octets, read octets = .ok word.toInt → (write word.toInt).length ≤ octets.length) ∧
    (∀ octets : Octets, 1 ≤ octets.length → octets.length ≤ 8 → ∃ word : Int64,
      read octets = .ok word.toInt ∧
      (write word.toInt = octets ↔ ¬StartsUniform octets ∨ octets.length = 1) ∧
      write word.toInt = strip octets) ∧
    (∀ octets, read octets = (readWord octets).map Int64.toInt) ∧
    ∀ front rest : Octets, rest ≠ [] → (front ++ rest).length ≤ 8 →
      let word := front.foldl pushWord (signWord (front ++ rest))
      word <<< 8 >>> 8 = word := by
  refine ⟨fun word => ?_, fun octets present short => ?_, read_eq_readWord,
    fun front rest => unshift_fold⟩
  · have back := read_write word.le_toInt word.toInt_lt
    obtain ⟨nonempty, short, -⟩ := read_eq_ok_iff.1 back
    refine ⟨back, List.length_pos_iff.2 nonempty, short, ?_, fun octets found => ?_⟩
    · have eight : bigEndian word ≠ [] := List.cons_ne_nil _ _
      rw [← write_value eight, value_bigEndian]
    · obtain ⟨some, -, same⟩ := read_eq_ok_iff.1 found
      rw [same, write_value some]
      exact (strip_suffix octets).length_le
  · have nonempty := List.length_pos_iff.1 present
    obtain ⟨word, -, same⟩ := exists_word nonempty short
    have stripped := write_value nonempty
    rw [← same] at stripped
    refine ⟨word, read_eq_ok_iff.2 ⟨nonempty, short, same⟩, ?_, stripped⟩
    rw [stripped, strip_eq_self_iff, isMinimal_iff]
    refine ⟨.inl, fun kept => kept.elim id fun single => ?_⟩
    obtain ⟨octet, rfl⟩ := List.length_eq_one_iff.1 single
    exact (isMinimal_iff [octet]).1 trivial

end Ber.Integer

end LdapService

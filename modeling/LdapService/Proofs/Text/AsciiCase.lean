import LdapService.Proofs.Text.Trim

/-!
Texts that differ in the case of ASCII letters only. Both forms of such a letter are letters
of a word and have one image, so lowering makes the two texts one, final sigmas included.
No blank and no separator is such a letter, so trimming and splitting cut both texts alike.
-/

namespace LdapService.Text

def IsLetter (code : Nat) : Prop :=
  (0x41 ≤ code ∧ code ≤ 0x5a) ∨ (0x61 ≤ code ∧ code ≤ 0x7a)

theorem toLower_eq_self_or_letters (c : Char) :
    c.toLower = c ∨ IsLetter c.toNat ∧ IsLetter c.toLower.toNat := by
  refine (toLower_eq_self_or_moved c).imp_right ?_
  rintro ⟨capital, moved⟩
  exact ⟨.inl capital, .inr (by omega)⟩

theorem caseIgnorableRanges_checked :
    caseIgnorableRanges.all (fun range => Nat.blt range.2 0x41 || Nat.blt 0x7a range.1 ||
      (Nat.blt 0x5a range.1 && Nat.blt range.2 0x61)) = true := by
  decide +kernel

namespace IsLetter

variable {c : Char}

theorem isCased (letter : IsLetter c.toNat) : isCased c = true := by
  rw [Text.isCased, inRanges, List.any_eq_true]
  rcases letter with ⟨first, last⟩ | ⟨first, last⟩
  · exact ⟨(0x41, 0x5a), .head _, by simp [first, last]⟩
  · exact ⟨(0x61, 0x7a), .tail _ (.head _), by simp [first, last]⟩

theorem not_isCaseIgnorable (letter : IsLetter c.toNat) : isCaseIgnorable c = false := by
  rw [isCaseIgnorable, inRanges, List.any_eq_false]
  intro range listed
  have apart := List.all_eq_true.1 caseIgnorableRanges_checked range listed
  simp only [Bool.or_eq_true, Bool.and_eq_true, Nat.blt_eq] at apart
  simp only [Bool.and_eq_true, decide_eq_true_eq]
  rcases letter with capital | small <;> omega

theorem not_isBlank (letter : IsLetter c.toNat) : isBlank c = false := by
  simp only [isBlank, Bool.or_eq_false_iff, Bool.and_eq_false_iff, decide_eq_false_iff_not,
    beq_eq_false_iff_ne]
  rcases letter with capital | small <;> omega

theorem ne_sigma (letter : IsLetter c.toNat) : c ≠ '\u03a3' := by
  rintro rfl
  rcases letter with ⟨-, last⟩ | ⟨-, last⟩
  · exact absurd last (by decide)
  · exact absurd last (by decide)

end IsLetter

theorem isCased_toLower (c : Char) : isCased c.toLower = isCased c := by
  rcases toLower_eq_self_or_letters c with same | ⟨letter, letter'⟩
  · rw [same]
  · rw [letter.isCased, letter'.isCased]

theorem isCaseIgnorable_toLower (c : Char) : isCaseIgnorable c.toLower = isCaseIgnorable c := by
  rcases toLower_eq_self_or_letters c with same | ⟨letter, letter'⟩
  · rw [same]
  · rw [letter.not_isCaseIgnorable, letter'.not_isCaseIgnorable]

theorem isBlank_toLower (c : Char) : isBlank c.toLower = isBlank c := by
  rcases toLower_eq_self_or_letters c with same | ⟨letter, letter'⟩
  · rw [same]
  · rw [letter.not_isBlank, letter'.not_isBlank]

theorem lowerChar_toLower (c : Char) : lowerChar c.toLower = lowerChar c := by
  rcases toLower_eq_self_or_moved c with same | ⟨capital, moved⟩
  · rw [same]
  · have row : lowerCaseRows.findSome? (·.image? c.toNat) = some (0x61 + (c.toNat - 0x41)) := by
      rw [lowerCaseRows, List.findSome?_cons, CaseRow.image?, if_pos]
      exact ⟨capital.1, capital.2, Nat.mod_one _⟩
    have code : 0x61 + (c.toNat - 0x41) = c.toLower.toNat := by omega
    have plain : c ≠ '\u0130' := by
      rintro rfl
      exact absurd capital.2 (by decide)
    have small := (image_reached row).2.1
    rw [code, Char.ofNat_toNat] at small
    rw [small, lowerChar, if_neg plain, row, code]
    exact congrArg (fun image => [image]) (Char.ofNat_toNat c.toLower).symm

theorem toLower_eq_iff {c separator : Char} (ascii : separator.toNat ≤ 0x40) :
    c.toLower = separator ↔ c = separator := by
  have fixed : separator.toLower = separator := by
    unfold Char.toLower
    rw [dif_neg]
    intro upper
    have first : 0x41 ≤ separator.toNat := UInt32.le_iff_toNat_le.1 upper.1
    omega
  constructor
  · rintro rfl
    rcases toLower_eq_or c with same | ⟨small, -⟩
    · exact same.symm
    · omega
  · rintro rfl
    exact fixed

theorem touchesWord_toLower (text : List Char) :
    touchesWord (text.map Char.toLower) = touchesWord text := by
  have ignorable : isCaseIgnorable ∘ Char.toLower = isCaseIgnorable :=
    funext isCaseIgnorable_toLower
  rw [touchesWord, touchesWord, List.dropWhile_map, ignorable]
  cases text.dropWhile isCaseIgnorable with
  | nil => rfl
  | cons c rest => exact isCased_toLower c

theorem lowerAfter_toLower (before text : List Char) :
    lowerAfter (before.map Char.toLower) (text.map Char.toLower) = lowerAfter before text := by
  induction text generalizing before with
  | nil => rfl
  | cons c rest ih =>
    have later := ih (c :: before)
    rw [List.map_cons] at later
    rw [List.map_cons, lowerAfter, lowerAfter, later]
    congr 1
    rcases toLower_eq_self_or_letters c with same | ⟨letter, letter'⟩
    · rw [same, lowerSigma, lowerSigma, touchesWord_toLower, touchesWord_toLower]
    · rw [if_neg letter.ne_sigma, if_neg letter'.ne_sigma, lowerChar_toLower]

theorem trimStart_toLower (text : List Char) :
    trimStart (text.map Char.toLower) = (trimStart text).map Char.toLower := by
  have blank : isBlank ∘ Char.toLower = isBlank := funext isBlank_toLower
  rw [trimStart, List.dropWhile_map, blank, trimStart]

theorem trim_toLower (text : List Char) :
    trim (text.map Char.toLower) = (trim text).map Char.toLower := by
  rw [trim, trimStart_toLower, ← List.map_reverse, trimStart_toLower, ← List.map_reverse, trim]

theorem splitOn_toLower {separator : Char} (ascii : separator.toNat ≤ 0x40) (text : List Char) :
    (text.map Char.toLower).splitOn separator =
      (text.splitOn separator).map (List.map Char.toLower) := by
  induction text with
  | nil => rfl
  | cons c rest ih =>
    rw [List.map_cons, List.splitOn_cons_eq_if_modifyHead, List.splitOn_cons_eq_if_modifyHead, ih]
    by_cases here : c = separator
    · rw [if_pos (beq_iff_eq.2 ((toLower_eq_iff ascii).2 here)), if_pos (beq_iff_eq.2 here)]
      rfl
    · rw [if_neg (mt beq_iff_eq.1 (mt (toLower_eq_iff ascii).1 here)),
        if_neg (mt beq_iff_eq.1 here)]
      cases rest.splitOn separator <;> rfl

end LdapService.Text

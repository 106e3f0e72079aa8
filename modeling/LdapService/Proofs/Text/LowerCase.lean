import LdapService.Text.Blank
import LdapService.Text.LowerCase
import Mathlib.Data.List.Basic

/-!
Lower case is stable. The images of the table are characters that no row of it
touches, and they are neither blanks nor ASCII characters before the small
letters. So lowering twice is lowering once, and nothing that separates the
parts of a name comes in or goes by it.
-/

namespace LdapService.Text

def unreached : List (Nat × Nat) := [
  (0, 0x60), (0x85, 0x85), (0xa0, 0xa0), (0x130, 0x130), (0x3a3, 0x3a3), (0x1680, 0x1680),
  (0x2000, 0x200a), (0x2028, 0x2029), (0x202f, 0x202f), (0x205f, 0x205f), (0x3000, 0x3000),
  (0xd800, 0xdfff)]

namespace CaseRow

def lastImage (row : CaseRow) : Nat := row.image + (row.last - row.first)

def avoids (row : CaseRow) (range : Nat × Nat) : Bool :=
  Nat.blt row.lastImage range.1 || Nat.blt range.2 row.image

/-- No image of the first row is in the second one: the two are apart, or
they alternate. -/
def isApart (row other : CaseRow) : Bool :=
  Nat.blt row.lastImage other.first || (Nat.blt other.last row.image ||
    ((Nat.beq row.step 2 || Nat.beq row.first row.last) &&
      (Nat.beq other.step 2 && Nat.beq ((row.image + other.first) % 2) 1)))

theorem image_le_lastImage {row : CaseRow} {code image : Nat} (h : row.image? code = some image) :
    row.image ≤ image ∧ image ≤ row.lastImage := by
  unfold image? at h
  unfold lastImage
  split at h
  · obtain rfl := Option.some.inj h
    omega
  · cases h

theorem image?_eq_none {row other : CaseRow} (apart : row.isApart other = true)
    {code image : Nat} (h : row.image? code = some image) : other.image? image = none := by
  simp only [isApart, lastImage, Bool.or_eq_true, Bool.and_eq_true, Nat.blt_eq, Nat.beq_eq]
    at apart
  unfold image? at h ⊢
  split at h
  · next inside =>
    obtain rfl := Option.some.inj h
    obtain ⟨lower, upper, steps⟩ := inside
    rw [if_neg]
    rintro ⟨lower', upper', steps'⟩
    rcases apart with below | above | ⟨two | single, two', odd⟩
    · omega
    · omega
    · rw [two] at steps
      rw [two'] at steps'
      omega
    · rw [two'] at steps'
      omega
  · cases h

theorem not_mem_of_avoids {row : CaseRow} {range : Nat × Nat} (avoids : row.avoids range = true)
    {code image : Nat} (h : row.image? code = some image) :
    ¬(range.1 ≤ image ∧ image ≤ range.2) := by
  simp only [CaseRow.avoids, Bool.or_eq_true, Nat.blt_eq] at avoids
  have between := image_le_lastImage h
  omega

end CaseRow

theorem lowerCaseRows_checked :
    lowerCaseRows.all (fun row => lowerCaseRows.all row.isApart && unreached.all row.avoids &&
      Nat.blt row.lastImage 0x110000) = true := by
  decide +kernel

def IsSmall (c : Char) : Prop := lowerChar c = [c] ∧ c ≠ '\u03a3'

def isReached (c : Char) : Bool := !inRanges unreached c

theorem isReached_iff {c : Char} :
    isReached c = true ↔ ∀ range ∈ unreached, ¬(range.1 ≤ c.toNat ∧ c.toNat ≤ range.2) := by
  simp [isReached, inRanges]

theorem toNat_ofNat_of_outside {code : Nat} (bound : code < 0x110000)
    (outside : ∀ range ∈ unreached, ¬(range.1 ≤ code ∧ code ≤ range.2)) :
    (Char.ofNat code).toNat = code := by
  have surrogate := outside (0xd800, 0xdfff) (by decide)
  have valid : code.isValidChar := by
    unfold Nat.isValidChar
    simp only at surrogate
    omega
  rw [Char.ofNat, dif_pos valid]
  rfl

theorem isSmall_of_untouched {c : Char} (dotless : c ≠ '\u0130') (other : c ≠ '\u03a3')
    (untouched : lowerCaseRows.findSome? (·.image? c.toNat) = none) : IsSmall c := by
  refine ⟨?_, other⟩
  unfold lowerChar
  rw [if_neg dotless, untouched]

theorem image_reached {c : Char} {image : Nat}
    (h : lowerCaseRows.findSome? (·.image? c.toNat) = some image) :
    isReached (Char.ofNat image) = true ∧ IsSmall (Char.ofNat image) := by
  obtain ⟨row, mem, maps⟩ := List.exists_of_findSome?_eq_some h
  have checked := lowerCaseRows_checked
  rw [List.all_eq_true] at checked
  have fine := checked row mem
  simp only [Bool.and_eq_true, List.all_eq_true, Nat.blt_eq] at fine
  obtain ⟨⟨apart, avoids⟩, bound⟩ := fine
  have outside (range : Nat × Nat) (listed : range ∈ unreached) :
      ¬(range.1 ≤ image ∧ image ≤ range.2) :=
    CaseRow.not_mem_of_avoids (avoids range listed) maps
  have below : image < 0x110000 := Nat.lt_of_le_of_lt (CaseRow.image_le_lastImage maps).2 bound
  have code : (Char.ofNat image).toNat = image := toNat_ofNat_of_outside below outside
  have reached : isReached (Char.ofNat image) = true := by
    rw [isReached_iff, code]
    exact outside
  have ne (d : Char) (unreached : isReached d = false) : Char.ofNat image ≠ d := by
    intro same
    rw [same, unreached] at reached
    cases reached
  refine ⟨reached, isSmall_of_untouched (ne _ (by decide)) (ne _ (by decide)) ?_⟩
  rw [code, List.findSome?_eq_none_iff]
  intro other listed
  exact CaseRow.image?_eq_none (apart other listed) maps

theorem special_reached {d : Char} (h : d ∈ ['i', '\u0307', '\u03c2', '\u03c3']) :
    isReached d = true ∧ IsSmall d := by
  simp only [List.mem_cons, List.not_mem_nil, or_false] at h
  rcases h with rfl | rfl | rfl | rfl
  · exact ⟨by decide, by decide +kernel, by decide⟩
  · exact ⟨by decide, by decide +kernel, by decide⟩
  · exact ⟨by decide, by decide +kernel, by decide⟩
  · exact ⟨by decide, by decide +kernel, by decide⟩

theorem mem_lowerChar {c d : Char} (other : c ≠ '\u03a3') (h : d ∈ lowerChar c) :
    (d = c ∨ isReached d = true) ∧ IsSmall d := by
  unfold lowerChar at h
  split at h
  · have listed : d ∈ ['i', '\u0307', '\u03c2', '\u03c3'] :=
      List.mem_append_left ['\u03c2', '\u03c3'] h
    obtain ⟨reached, small⟩ := special_reached listed
    exact ⟨.inr reached, small⟩
  · next dotless =>
    split at h
    · next image maps =>
      obtain rfl := List.mem_singleton.1 h
      obtain ⟨reached, small⟩ := image_reached maps
      exact ⟨.inr reached, small⟩
    · next unmapped =>
      obtain rfl := List.mem_singleton.1 h
      exact ⟨.inl rfl, isSmall_of_untouched dotless other unmapped⟩

theorem lowerChar_ne_nil (c : Char) : lowerChar c ≠ [] := by
  unfold lowerChar
  split
  · simp
  · split
    · simp
    · simp

theorem lowerAfter_cons (before : List Char) (c : Char) (rest : List Char) :
    ∃ image, lowerAfter before (c :: rest) = image ++ lowerAfter (c :: before) rest ∧
      image ≠ [] ∧ ∀ d ∈ image, (d = c ∨ isReached d = true) ∧ IsSmall d := by
  by_cases sigma : c = '\u03a3'
  · refine ⟨[lowerSigma before rest], ?_, by simp, ?_⟩
    · rw [lowerAfter, if_pos sigma]
    · intro d mem
      have listed : d ∈ ['i', '\u0307', '\u03c2', '\u03c3'] := by
        rw [List.mem_singleton, lowerSigma] at mem
        split at mem
        · simp [mem]
        · simp [mem]
      obtain ⟨reached, small⟩ := special_reached listed
      exact ⟨.inr reached, small⟩
  · refine ⟨lowerChar c, ?_, lowerChar_ne_nil c, fun d mem => mem_lowerChar sigma mem⟩
    rw [lowerAfter, if_neg sigma]

theorem mem_lowerAfter {before text : List Char} {d : Char} (h : d ∈ lowerAfter before text) :
    (d ∈ text ∨ isReached d = true) ∧ IsSmall d := by
  induction text generalizing before with
  | nil => cases h
  | cons c rest ih =>
    obtain ⟨image, same, -, lowered⟩ := lowerAfter_cons before c rest
    rw [same, List.mem_append] at h
    rcases h with here | later
    · have facts := lowered d here
      refine ⟨facts.1.imp_left ?_, facts.2⟩
      rintro rfl
      exact List.mem_cons_self
    · have facts := ih later
      exact ⟨facts.1.imp_left (List.mem_cons_of_mem c), facts.2⟩

theorem lowerAfter_of_small {before text : List Char} (small : ∀ c ∈ text, IsSmall c) :
    lowerAfter before text = text := by
  induction text generalizing before with
  | nil => rfl
  | cons c rest ih =>
    have first := small c List.mem_cons_self
    rw [lowerAfter, if_neg first.2, first.1, ih fun d mem => small d (List.mem_cons_of_mem c mem)]
    rfl

theorem lowerAfter_lowerAfter (before before' text : List Char) :
    lowerAfter before (lowerAfter before' text) = lowerAfter before' text :=
  lowerAfter_of_small fun _ mem => (mem_lowerAfter mem).2

theorem lowerAfter_ne_nil {before text : List Char} (h : text ≠ []) :
    lowerAfter before text ≠ [] := by
  cases text with
  | nil => exact absurd rfl h
  | cons c rest =>
    obtain ⟨image, same, filled, -⟩ := lowerAfter_cons before c rest
    rw [same]
    simp [filled]

theorem head?_lowerAfter {before text : List Char} {d : Char}
    (h : (lowerAfter before text).head? = some d) :
    text.head? = some d ∨ isReached d = true := by
  cases text with
  | nil => cases h
  | cons c rest =>
    obtain ⟨image, same, filled, lowered⟩ := lowerAfter_cons before c rest
    rw [same, List.head?_append_of_ne_nil _ filled] at h
    have facts := (lowered d (List.mem_of_head? h)).1
    exact facts.imp_left fun same => by rw [same, List.head?_cons]

theorem getLast?_lowerAfter {before text : List Char} {d : Char}
    (h : (lowerAfter before text).getLast? = some d) :
    text.getLast? = some d ∨ isReached d = true := by
  induction text generalizing before with
  | nil => cases h
  | cons c rest ih =>
    obtain ⟨image, same, filled, lowered⟩ := lowerAfter_cons before c rest
    rw [same] at h
    by_cases single : rest = []
    · subst single
      simp only [lowerAfter, List.append_nil] at h
      have facts := (lowered d (List.mem_of_getLast? h)).1
      exact facts.imp_left fun same => by rw [same, List.getLast?_singleton]
    · rw [List.getLast?_append_of_ne_nil _ (lowerAfter_ne_nil single)] at h
      rw [List.getLast?_cons_of_ne_nil single]
      exact ih h

end LdapService.Text

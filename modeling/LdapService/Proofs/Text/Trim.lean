import LdapService.Proofs.Text.LowerCase

/-!
Trimmed texts. Trimming leaves a text without blanks at its ends, and such a
text it leaves alone. Lowering, of all characters or of ASCII letters, makes no
blank and no separator, so it keeps a text trimmed.
-/

namespace LdapService.Text

structure IsTrimmed (text : List Char) : Prop where
  head : ∀ c, text.head? = some c → isBlank c = false
  last : ∀ c, text.getLast? = some c → isBlank c = false

theorem trimStart_eq_self {text : List Char}
    (head : ∀ c, text.head? = some c → isBlank c = false) : trimStart text = text := by
  cases text with
  | nil => rfl
  | cons c rest =>
    have solid := head c rfl
    simp [trimStart, solid]

theorem head?_trimStart {text : List Char} {c : Char} (h : (trimStart text).head? = some c) :
    isBlank c = false := by
  have solid := List.head?_dropWhile_not isBlank text
  rw [trimStart] at h
  rw [h] at solid
  simpa using solid

theorem trim_of_isTrimmed {text : List Char} (h : IsTrimmed text) : trim text = text := by
  rw [trim, trimStart_eq_self h.head, trimStart_eq_self, List.reverse_reverse]
  intro c first
  rw [List.head?_reverse] at first
  exact h.last c first

theorem trim_cons {c : Char} (blank : isBlank c = true) (text : List Char) :
    trim (c :: text) = trim text := by
  simp only [trim, trimStart, List.dropWhile_cons, blank, if_true]

theorem trim_concat {c : Char} (blank : isBlank c = true) (text : List Char) :
    trim (text ++ [c]) = trim text := by
  rw [trim, trim]
  by_cases empty : (trimStart text).isEmpty = true
  · have start : trimStart (text ++ [c]) = [] := by
      rw [trimStart] at empty
      simp [trimStart, List.dropWhile_append, empty, blank]
    rw [start, List.isEmpty_iff.1 empty]
  · have start : trimStart (text ++ [c]) = trimStart text ++ [c] := by
      rw [trimStart] at empty
      simp [trimStart, List.dropWhile_append, empty]
    rw [start, List.reverse_concat, trimStart, List.dropWhile_cons, if_pos blank, ← trimStart]

theorem isTrimmed_trim (text : List Char) : IsTrimmed (trim text) := by
  constructor
  · intro c first
    have suffix := List.dropWhile_suffix (l := (trimStart text).reverse) isBlank
    rw [trim, List.head?_reverse] at first
    -- What is left after trimming the end still has the head of what was there.
    obtain ⟨front, same⟩ := suffix
    rw [trimStart] at first
    have filled : List.dropWhile isBlank (trimStart text).reverse ≠ [] := by
      intro empty
      rw [empty] at first
      cases first
    have kept : (trimStart text).reverse.getLast? = some c := by
      rw [← same, List.getLast?_append_of_ne_nil _ filled]
      exact first
    rw [List.getLast?_reverse] at kept
    exact head?_trimStart kept
  · intro c last
    rw [trim, List.getLast?_reverse] at last
    exact head?_trimStart last

theorem mem_of_mem_trim {text : List Char} {c : Char} (h : c ∈ trim text) : c ∈ text := by
  rw [trim, List.mem_reverse] at h
  have inner := (List.dropWhile_sublist isBlank).mem h
  rw [List.mem_reverse] at inner
  exact (List.dropWhile_sublist isBlank).mem inner

theorem not_isBlank_of_isReached {c : Char} (h : isReached c = true) : isBlank c = false := by
  rw [isReached_iff] at h
  simp only [unreached, List.forall_mem_cons] at h
  simp only [isBlank, Bool.or_eq_false_iff, Bool.and_eq_false_iff, decide_eq_false_iff_not,
    beq_eq_false_iff_ne]
  omega

theorem ne_of_isReached {c d : Char} (h : isReached c = true) (ascii : d.toNat ≤ 0x60) :
    c ≠ d := by
  rintro rfl
  rw [isReached_iff] at h
  have below := h (0, 0x60) (by decide)
  omega

theorem toLower_eq_self_or_moved (c : Char) :
    c.toLower = c ∨ (0x41 ≤ c.toNat ∧ c.toNat ≤ 0x5a) ∧ c.toLower.toNat = c.toNat + 0x20 := by
  unfold Char.toLower
  split
  · next upper =>
    right
    have first : 0x41 ≤ c.val.toNat := UInt32.le_iff_toNat_le.1 upper.1
    have last : c.val.toNat ≤ 0x5a := UInt32.le_iff_toNat_le.1 upper.2
    have shift : ('a'.val - 'A'.val).toNat = 0x20 := by decide
    refine ⟨⟨first, last⟩, ?_⟩
    change (c.val + ('a'.val - 'A'.val)).toNat = c.val.toNat + 0x20
    rw [UInt32.toNat_add, shift]
    omega
  · exact .inl rfl

theorem toLower_eq_or (c : Char) :
    c.toLower = c ∨ 0x61 ≤ c.toLower.toNat ∧ c.toLower.toNat ≤ 0x7a := by
  refine (toLower_eq_self_or_moved c).imp_right ?_
  rintro ⟨capital, moved⟩
  omega

theorem toLower_of_lt {c : Char} (h : 0x5a < c.toNat) : c.toLower = c := by
  unfold Char.toLower
  rw [dif_neg]
  intro upper
  exact Nat.not_le.2 h (UInt32.le_iff_toNat_le.1 upper.2)

theorem toLower_toLower (c : Char) : c.toLower.toLower = c.toLower := by
  rcases toLower_eq_or c with same | ⟨first, -⟩
  · rw [same, same]
  · apply toLower_of_lt
    omega

theorem toLower_reached (c : Char) : c.toLower = c ∨ isReached c.toLower = true := by
  refine (toLower_eq_or c).imp_right fun small => ?_
  rw [isReached_iff]
  simp only [unreached, List.forall_mem_cons, List.not_mem_nil, false_implies, implies_true,
    and_true]
  omega

theorem IsTrimmed.of_ends {text lowered : List Char} (h : IsTrimmed text)
    (head : ∀ d, lowered.head? = some d → text.head? = some d ∨ isReached d = true)
    (last : ∀ d, lowered.getLast? = some d → text.getLast? = some d ∨ isReached d = true) :
    IsTrimmed lowered := by
  constructor
  · intro d first
    rcases head d first with old | new
    · exact h.head d old
    · exact not_isBlank_of_isReached new
  · intro d final
    rcases last d final with old | new
    · exact h.last d old
    · exact not_isBlank_of_isReached new

theorem IsTrimmed.lowerAfter {text : List Char} (h : IsTrimmed text) (before : List Char) :
    IsTrimmed (lowerAfter before text) :=
  h.of_ends (fun _ => head?_lowerAfter) (fun _ => getLast?_lowerAfter)

theorem IsTrimmed.toLower {text : List Char} (h : IsTrimmed text) :
    IsTrimmed (text.map Char.toLower) := by
  have lowered (edge : Option Char) (d : Char) (h : edge.map Char.toLower = some d) :
      edge = some d ∨ isReached d = true := by
    obtain ⟨c, found, rfl⟩ := Option.map_eq_some_iff.1 h
    exact (toLower_reached c).imp_left fun same => by rw [found, same]
  apply h.of_ends
  · intro d first
    rw [List.head?_map] at first
    exact lowered _ d first
  · intro d last
    rw [List.getLast?_map] at last
    exact lowered _ d last

end LdapService.Text

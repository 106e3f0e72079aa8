import LdapService.Matching.Scan
import LdapService.Proofs.Text.OctetOrder

/-!
Characters in the octets of a text. A character begins with an octet that continues
nothing, so its octets are found in a text where the character is and nowhere else: what
stands in front of them, and what stands behind them, are octets of characters again.
-/

namespace LdapService.Text

def octetsOf (text : List Char) : Octets :=
  text.flatMap String.utf8EncodeChar

@[simp] theorem octetsOf_nil : octetsOf [] = [] := rfl

@[simp] theorem octetsOf_cons (c : Char) (text : List Char) :
    octetsOf (c :: text) = String.utf8EncodeChar c ++ octetsOf text := List.flatMap_cons

@[simp] theorem octetsOf_append (first second : List Char) :
    octetsOf (first ++ second) = octetsOf first ++ octetsOf second := List.flatMap_append

theorem utf8_eq_octetsOf (text : String) : utf8 text = octetsOf text.toList :=
  utf8_eq_flatMap text

theorem isContinuation_ofNat {value : Nat} (h : value < 256) :
    isContinuation (UInt8.ofNat value) = decide (128 ≤ value ∧ value < 192) := by
  have low : (0x80 : UInt8) ≤ UInt8.ofNat value ↔ 128 ≤ value := by
    rw [UInt8.le_iff_toNat_le, UInt8.toNat_ofNat', Nat.mod_eq_of_lt h]
    rfl
  have high : UInt8.ofNat value < (0xc0 : UInt8) ↔ value < 192 := by
    rw [UInt8.lt_iff_toNat_lt, UInt8.toNat_ofNat', Nat.mod_eq_of_lt h]
    rfl
  rw [isContinuation, decide_eq_decide.2 low, decide_eq_decide.2 high, Bool.decide_and]

/-- The first octet of a character continues nothing, the others continue it. -/
theorem encoding_eq_cons (c : Char) :
    ∃ lead rest, String.utf8EncodeChar c = lead :: rest ∧ isContinuation lead = false ∧
      ∀ octet ∈ rest, isContinuation octet = true := by
  have continues {digit : Nat} (small : digit < 64) :
      isContinuation (UInt8.ofNat (digit + 128)) = true := by
    rw [isContinuation_ofNat (by omega)]
    simp only [decide_eq_true_eq]
    omega
  have leads {value : Nat} (bound : value < 256) (outside : value < 128 ∨ 192 ≤ value) :
      isContinuation (UInt8.ofNat value) = false := by
    rw [isContinuation_ofNat bound]
    simp only [decide_eq_false_iff_not]
    omega
  generalize String.utf8EncodeChar c = octets, isEncoding c = encoded
  cases encoded with
  | one small => exact ⟨_, _, rfl, leads (by omega) (by omega), List.forall_mem_nil _⟩
  | two digits low high second =>
    refine ⟨_, _, rfl, leads (by omega) (by omega), ?_⟩
    simp only [List.forall_mem_cons]
    exact ⟨continues second, List.forall_mem_nil _⟩
  | three digits low high second third =>
    refine ⟨_, _, rfl, leads (by omega) (by omega), ?_⟩
    simp only [List.forall_mem_cons]
    exact ⟨continues second, continues third, List.forall_mem_nil _⟩
  | four digits low high second third fourth =>
    refine ⟨_, _, rfl, leads (by omega) (by omega), ?_⟩
    simp only [List.forall_mem_cons]
    exact ⟨continues second, continues third, continues fourth, List.forall_mem_nil _⟩

theorem head?_octetsOf {text : List Char} {octet : UInt8} (h : (octetsOf text).head? = some octet) :
    isContinuation octet = false := by
  cases text with
  | nil => cases h
  | cons c rest =>
    obtain ⟨lead, others, encoded, leads, -⟩ := encoding_eq_cons c
    rw [octetsOf_cons, encoded] at h
    cases h
    exact leads

theorem octetsOf_eq_nil_iff {text : List Char} : octetsOf text = [] ↔ text = [] := by
  cases text with
  | nil => simp
  | cons c rest =>
    obtain ⟨lead, others, encoded, -, -⟩ := encoding_eq_cons c
    simp [encoded]

theorem eq_of_encoding_append {c d : Char} {first second : Octets}
    (h : String.utf8EncodeChar c ++ first = String.utf8EncodeChar d ++ second) : c = d := by
  have apart {c d : Char} {first second : Octets} (below : c.val.toNat < d.val.toNat) :
      String.utf8EncodeChar c ++ first ≠ String.utf8EncodeChar d ++ second := fun same =>
    List.lt_irrefl _ (same ▸ (isEncoding c).lt (isEncoding d) below first second)
  rcases Nat.lt_trichotomy c.val.toNat d.val.toNat with below | same | above
  · exact absurd h (apart below)
  · exact Char.ext (UInt32.toNat_inj.1 same)
  · exact absurd h.symm (apart above)

theorem eq_append_of_octetsOf {front text : List Char} {back : Octets}
    (h : octetsOf front ++ back = octetsOf text) :
    ∃ rest, text = front ++ rest ∧ back = octetsOf rest := by
  induction front generalizing text with
  | nil => exact ⟨text, rfl, h⟩
  | cons c front ih =>
    rw [octetsOf_cons, List.append_assoc] at h
    cases text with
    | nil =>
      obtain ⟨lead, others, encoded, -, -⟩ := encoding_eq_cons c
      rw [encoded] at h
      cases h
    | cons d text =>
      rw [octetsOf_cons] at h
      obtain rfl := eq_of_encoding_append h
      obtain ⟨rest, rfl, same⟩ := ih (List.append_cancel_left h)
      exact ⟨rest, rfl, same⟩

theorem octetsOf_injective {first second : List Char} (h : octetsOf first = octetsOf second) :
    first = second := by
  have whole : octetsOf first ++ [] = octetsOf second := by rw [List.append_nil, h]
  obtain ⟨rest, same, nothing⟩ := eq_append_of_octetsOf whole
  rw [same, octetsOf_eq_nil_iff.1 nothing.symm, List.append_nil]

theorem octetsOf_prefix_iff {front text : List Char} :
    octetsOf front <+: octetsOf text ↔ front <+: text := by
  constructor
  · rintro ⟨back, same⟩
    obtain ⟨rest, rfl, -⟩ := eq_append_of_octetsOf same
    exact List.prefix_append _ _
  · rintro ⟨rest, rfl⟩
    rw [octetsOf_append]
    exact List.prefix_append _ _

/-- A text can be cut wherever what is behind does not go on with a character. -/
theorem exists_cut {text : List Char} {front back : Octets} (h : octetsOf text = front ++ back)
    (begins : ∀ octet, back.head? = some octet → isContinuation octet = false) :
    ∃ before after, text = before ++ after ∧ front = octetsOf before ∧ back = octetsOf after := by
  induction text generalizing front with
  | nil =>
    obtain ⟨rfl, rfl⟩ := List.append_eq_nil_iff.1 h.symm
    exact ⟨[], [], rfl, rfl, rfl⟩
  | cons c text ih =>
    cases front with
    | nil => exact ⟨[], c :: text, rfl, rfl, h.symm⟩
    | cons first front =>
      obtain ⟨lead, others, encoded, -, continues⟩ := encoding_eq_cons c
      rw [octetsOf_cons, encoded, List.cons_append, List.cons_append, List.cons.injEq] at h
      obtain ⟨rfl, h⟩ := h
      rcases List.append_eq_append_iff.1 h with ⟨more, rfl, rest⟩ | ⟨more, rfl, rest⟩
      · obtain ⟨before, after, rfl, rfl, rfl⟩ := ih rest
        exact ⟨c :: before, after, rfl, by rw [octetsOf_cons, encoded, List.cons_append], rfl⟩
      · -- The cut is inside the character, unless nothing of it is left behind the cut.
        cases more with
        | nil =>
          rw [List.append_nil] at encoded
          rw [List.nil_append] at rest
          exact ⟨[c], text, rfl, by rw [octetsOf_cons, encoded]; simp, rest⟩
        | cons octet more =>
          have inside := continues octet (by simp)
          rw [begins octet (by rw [rest]; rfl)] at inside
          cases inside

theorem octetsOf_suffix_iff {text final : List Char} :
    octetsOf final <:+ octetsOf text ↔ final <:+ text := by
  constructor
  · rintro ⟨front, same⟩
    obtain ⟨before, after, rfl, -, back⟩ := exists_cut same.symm fun _ => head?_octetsOf
    rw [octetsOf_injective back]
    exact List.suffix_append _ _
  · rintro ⟨before, rfl⟩
    rw [octetsOf_append]
    exact List.suffix_append _ _

theorem isBoundary_octetsOf (front back : List Char) :
    isBoundary (octetsOf (front ++ back)) (octetsOf front).length = true := by
  have behind : (octetsOf (front ++ back))[(octetsOf front).length]? = (octetsOf back).head? := by
    rw [octetsOf_append, List.getElem?_append_right (Nat.le_refl _), Nat.sub_self,
      ← List.head?_eq_getElem?]
  rw [isBoundary, behind]
  cases head : (octetsOf back).head? with
  | none =>
    rw [List.head?_eq_none_iff] at head
    simp [head]
  | some octet => simp [head?_octetsOf head]

theorem cutAt_octetsOf (front back : List Char) :
    cutAt (octetsOf (front ++ back)) (octetsOf front).length = .ok (octetsOf back) := by
  rw [cutAt, if_pos (isBoundary_octetsOf front back), octetsOf_append, List.drop_left]

/-- What begins a character is not found among octets that continue one. -/
theorem find?_append_of_continuation {segment front back : Octets} (filled : segment ≠ [])
    (begins : ∀ octet, segment.head? = some octet → isContinuation octet = false)
    (continues : ∀ octet ∈ front, isContinuation octet = true) :
    find? segment (front ++ back) = (find? segment back).map (· + front.length) := by
  induction front with
  | nil => simp
  | cons octet front ih =>
    obtain ⟨here, later⟩ := List.forall_mem_cons.1 continues
    obtain ⟨first, rest, rfl⟩ := List.exists_cons_of_ne_nil filled
    have absent : ¬(first :: rest).isPrefixOf (octet :: (front ++ back)) = true := by
      rw [List.isPrefixOf_iff_prefix, List.cons_prefix_cons]
      rintro ⟨rfl, -⟩
      rw [begins first rfl] at here
      cases here
    rw [List.cons_append, find?, if_neg absent, ih later, Option.map_map]
    rfl

/-- The octets of a segment are first found where the segment is. -/
theorem find?_octetsOf (segment text : List Char) :
    match afterFirst? segment text with
    | some after => ∃ gap, text = gap ++ segment ++ after ∧
        find? (octetsOf segment) (octetsOf text) = some (octetsOf gap).length
    | none => find? (octetsOf segment) (octetsOf text) = none := by
  induction text with
  | nil =>
    cases front : afterFront? segment [] with
    | some after =>
      have same := afterFront?_eq_some_iff.1 front
      obtain ⟨rfl, rfl⟩ := List.append_eq_nil_iff.1 same.symm
      exact ⟨[], rfl, rfl⟩
    | none =>
      have filled : octetsOf segment ≠ [] := by
        intro empty
        rw [octetsOf_eq_nil_iff.1 empty] at front
        cases front
      simp only [afterFirst?, front]
      simp [find?, filled]
  | cons c rest ih =>
    cases front : afterFront? segment (c :: rest) with
    | some after =>
      have same := afterFront?_eq_some_iff.1 front
      have here : (octetsOf segment).isPrefixOf (octetsOf (c :: rest)) = true := by
        rw [List.isPrefixOf_iff_prefix, octetsOf_prefix_iff, same]
        exact List.prefix_append _ _
      obtain ⟨lead, others, encoded, -, -⟩ := encoding_eq_cons c
      rw [octetsOf_cons, encoded, List.cons_append] at here
      simp only [afterFirst?, front]
      refine ⟨[], same, ?_⟩
      rw [octetsOf_cons, encoded, List.cons_append, find?, if_pos here]
      rfl
    | none =>
      have absent : ¬segment <+: c :: rest := by
        rintro ⟨after, same⟩
        rw [afterFront?_eq_some_iff.2 same.symm] at front
        cases front
      have filled : octetsOf segment ≠ [] := by
        intro empty
        exact absent (octetsOf_eq_nil_iff.1 empty ▸ List.nil_prefix)
      have absent' : ¬(octetsOf segment).isPrefixOf (octetsOf (c :: rest)) = true := by
        rw [List.isPrefixOf_iff_prefix, octetsOf_prefix_iff]
        exact absent
      obtain ⟨lead, others, encoded, -, continues⟩ := encoding_eq_cons c
      have passed : find? (octetsOf segment) (octetsOf (c :: rest)) =
          (find? (octetsOf segment) (octetsOf rest)).map (· + (String.utf8EncodeChar c).length) := by
        rw [octetsOf_cons, encoded, List.cons_append] at absent' ⊢
        rw [find?, if_neg absent',
          find?_append_of_continuation filled (fun _ => head?_octetsOf) continues, Option.map_map]
        rfl
      rw [passed]
      simp only [afterFirst?, front]
      split at ih
      · obtain ⟨gap, rfl, found⟩ := ih
        refine ⟨c :: gap, rfl, ?_⟩
        rw [found, octetsOf_cons, List.length_append, Option.map_some, Nat.add_comm]
      · rw [ih, Option.map_none]

end LdapService.Text

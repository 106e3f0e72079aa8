import LdapService.Proofs.Text.Boundaries

/-!
The search for segments finds them wherever they are. It takes every segment at its first
place and never tries another, yet whatever could be found behind a later place is found
behind the first one too: the rest behind the first place ends with the rest behind any
other. The cursor along the octets goes to the same places, and never into a character.
-/

namespace LdapService

namespace Text

theorem exists_gap {segment text after : List Char} (h : afterFirst? segment text = some after) :
    ∃ gap, text = gap ++ segment ++ after := by
  have found := find?_octetsOf segment text
  rw [h] at found
  obtain ⟨gap, same, -⟩ := found
  exact ⟨gap, same⟩

theorem afterFirst?_of_afterFront? {segment text after : List Char}
    (h : afterFront? segment text = some after) : afterFirst? segment text = some after := by
  cases text with
  | nil => exact h
  | cons c rest => rw [afterFirst?, h]

/-- The first place leaves at least as much of the text as any other. -/
theorem exists_afterFirst? (gap segment rest : List Char) :
    ∃ after, afterFirst? segment (gap ++ segment ++ rest) = some after ∧ rest <:+ after := by
  induction gap with
  | nil =>
    have front : afterFront? segment (segment ++ rest) = some rest :=
      afterFront?_eq_some_iff.2 rfl
    exact ⟨rest, afterFirst?_of_afterFront? front, List.suffix_refl rest⟩
  | cons c gap ih =>
    simp only [List.cons_append, afterFirst?]
    cases front : afterFront? segment (c :: (gap ++ segment ++ rest)) with
    | none => exact ih
    | some after =>
      have whole := afterFront?_eq_some_iff.1 front
      have long : rest.length ≤ after.length := by
        have lengths := congrArg List.length whole
        simp only [List.length_cons, List.length_append] at lengths
        omega
      have behind : rest <:+ segment ++ after :=
        whole ▸ (List.suffix_append _ rest).trans (List.suffix_cons c _)
      exact ⟨after, rfl, List.suffix_of_suffix_length_le behind (List.suffix_append _ after) long⟩

end Text

namespace Matching.Rule

open Text

/-- What can stand behind all segments, wherever they are taken. -/
theorem suffix_afterAll?_iff {segments : List (List Char)} {text rest : List Char} :
    (∃ behind, afterAll? segments text = some behind ∧ rest <:+ behind) ↔
      ∃ gap gaps, gaps.length = segments.length ∧
        text = gap ++ (List.zipWith (· ++ ·) segments gaps).flatten ++ rest := by
  induction segments generalizing text with
  | nil =>
    constructor
    · rintro ⟨behind, all, gap, rfl⟩
      obtain rfl := Option.some.inj all
      exact ⟨gap, [], rfl, by simp⟩
    · rintro ⟨gap, gaps, -, rfl⟩
      exact ⟨_, rfl, List.suffix_append _ rest⟩
  | cons segment segments ih =>
    constructor
    · rintro ⟨behind, all, final⟩
      obtain ⟨after, first, others⟩ := Option.bind_eq_some_iff.1 all
      obtain ⟨gap, rfl⟩ := exists_gap first
      obtain ⟨next, gaps, same, rfl⟩ := ih.1 ⟨behind, others, final⟩
      refine ⟨gap, next :: gaps, by simp only [List.length_cons, same], ?_⟩
      simp only [List.zipWith_cons_cons, List.flatten_cons, List.append_assoc]
    · rintro ⟨gap, gaps, same, rfl⟩
      obtain ⟨next, gaps, rfl⟩ := List.exists_cons_of_length_eq_add_one same
      simp only [List.length_cons, Nat.add_right_cancel_iff] at same
      -- What the first place leaves more than the given one goes into the gap behind it.
      obtain ⟨after, first, skipped, rfl⟩ := exists_afterFirst? gap segment
        (next ++ (List.zipWith (· ++ ·) segments gaps).flatten ++ rest)
      have kept : skipped ++ (next ++ (List.zipWith (· ++ ·) segments gaps).flatten ++ rest) =
          skipped ++ next ++ (List.zipWith (· ++ ·) segments gaps).flatten ++ rest := by
        simp only [List.append_assoc]
      obtain ⟨behind, others, final⟩ := ih.2 ⟨skipped ++ next, gaps, same, kept⟩
      refine ⟨behind, ?_, final⟩
      simp only [List.zipWith_cons_cons, List.flatten_cons, List.append_assoc] at first others ⊢
      rw [afterAll?, first, Option.bind_some, others]

theorem segmentsMatch_iff {initial : List Char} {any : List (List Char)} {final text : List Char} :
    segmentsMatch initial any final text = true ↔
      ∃ gap gaps, gaps.length = any.length ∧
        text = initial ++ gap ++ (List.zipWith (· ++ ·) any gaps).flatten ++ final := by
  rw [segmentsMatch]
  constructor
  · intro h
    split at h
    · next behind found =>
      obtain ⟨rest, front, all⟩ := Option.bind_eq_some_iff.1 found
      obtain rfl := afterFront?_eq_some_iff.1 front
      obtain ⟨gap, gaps, same, rfl⟩ :=
        suffix_afterAll?_iff.1 ⟨behind, all, List.isSuffixOf_iff_suffix.1 h⟩
      exact ⟨gap, gaps, same, by simp only [List.append_assoc]⟩
    · cases h
  · rintro ⟨gap, gaps, same, rfl⟩
    obtain ⟨behind, all, ends⟩ :=
      suffix_afterAll?_iff.2 ⟨gap, gaps, same, rfl⟩
    have front : afterFront? initial
        (initial ++ gap ++ (List.zipWith (· ++ ·) any gaps).flatten ++ final) =
          some (gap ++ (List.zipWith (· ++ ·) any gaps).flatten ++ final) :=
      afterFront?_eq_some_iff.2 (by simp only [List.append_assoc])
    rw [front, Option.bind_some, all]
    exact List.isSuffixOf_iff_suffix.2 ends

/-- The prepared value is made of the prepared segments, in their order, with anything
between them. -/
def HasSegments (rule : Rule) (value : String) (initial : Option String) (any : List String)
    (final : Option String) : Prop :=
  ∃ gap gaps, gaps.length = any.length ∧
    rule.prepare value =
      (initial.map rule.prepare).getD "" ++ gap ++
        String.join (List.zipWith (fun segment gap => rule.prepare segment ++ gap) any gaps) ++
        (final.map rule.prepare).getD ""

theorem toList_getD (text : Option String) (prepare : String → String) :
    ((text.map prepare).getD "").toList = (text.map fun text => (prepare text).toList).getD [] := by
  cases text with
  | none => rfl
  | some text => rfl

theorem substrings_iff {rule : Rule} {value : String} {initial : Option String}
    {any : List String} {final : Option String} :
    rule.substrings value initial any final = true ↔ rule.HasSegments value initial any final := by
  have between (gaps : List String) :
      (String.join
        (List.zipWith (fun segment gap => rule.prepare segment ++ gap) any gaps)).toList =
      (List.zipWith (· ++ ·) (any.map fun text => (rule.prepare text).toList)
        (gaps.map String.toList)).flatten := by
    rw [String.toList_join, List.flatMap_def, List.map_zipWith, List.zipWith_map]
    simp only [String.toList_append]
  simp only [substrings, segmentsMatch_iff, List.length_map]
  constructor
  · rintro ⟨gap, gaps, same, whole⟩
    refine ⟨String.ofList gap, gaps.map String.ofList, by simpa using same, ?_⟩
    rw [← String.toList_inj, whole]
    simp only [String.toList_append, between, toList_getD, String.toList_ofList, List.map_map]
    simp [Function.comp_def]
  · rintro ⟨gap, gaps, same, whole⟩
    refine ⟨gap.toList, gaps.map String.toList, by simpa using same, ?_⟩
    rw [whole]
    simp only [String.toList_append, between, toList_getD]

theorem scanAll_octetsOf (segments : List (List Char)) (front text : List Char) :
    match afterAll? segments text with
    | some behind => ∃ passed, text = passed ++ behind ∧
        scanAll (octetsOf (front ++ text)) (segments.map octetsOf) (octetsOf front).length =
          .ok (some (octetsOf (front ++ passed)).length)
    | none =>
        scanAll (octetsOf (front ++ text)) (segments.map octetsOf) (octetsOf front).length =
          .ok none := by
  induction segments generalizing front text with
  | nil => exact ⟨[], rfl, by rw [List.append_nil]; rfl⟩
  | cons segment segments ih =>
    have found := find?_octetsOf segment text
    simp only [afterAll?, List.map_cons, scanAll, cutAt_octetsOf]
    cases first : afterFirst? segment text with
    | none =>
      rw [first] at found
      rw [Option.bind_none]
      simp only [bind, Except.bind, found]
      rfl
    | some after =>
      rw [first] at found
      obtain ⟨gap, rfl, place⟩ := found
      have next := ih (front ++ (gap ++ segment)) after
      have cursor : (octetsOf (front ++ (gap ++ segment))).length =
          (octetsOf front).length + (octetsOf gap).length + (octetsOf segment).length := by
        simp only [octetsOf_append, List.length_append, Nat.add_assoc]
      rw [cursor, List.append_assoc front] at next
      rw [Option.bind_some]
      simp only [bind, Except.bind, place]
      split at next
      · obtain ⟨passed, rfl, ends⟩ := next
        refine ⟨gap ++ segment ++ passed, by simp only [List.append_assoc], ?_⟩
        rw [ends]
        simp only [List.append_assoc]
      · exact next

theorem final_octetsOf (passed behind final : List Char) :
    (decide ((octetsOf passed).length + (octetsOf final).length ≤
        (octetsOf (passed ++ behind)).length) &&
      (octetsOf final).isSuffixOf (octetsOf (passed ++ behind))) = final.isSuffixOf behind := by
  rw [Bool.eq_iff_iff, Bool.and_eq_true, decide_eq_true_iff, List.isSuffixOf_iff_suffix,
    List.isSuffixOf_iff_suffix, ← octetsOf_suffix_iff, octetsOf_append, List.length_append]
  constructor
  · rintro ⟨fits, ends⟩
    exact List.suffix_of_suffix_length_le ends (List.suffix_append _ _) (by omega)
  · intro ends
    exact ⟨by have := ends.length_le; omega, ends.trans (List.suffix_append _ _)⟩

theorem scanFrom_octetsOf (front text : List Char) (segments : List (List Char))
    (final : Option (List Char)) :
    scanFrom (octetsOf (front ++ text)) (segments.map octetsOf) (final.map octetsOf)
        (octetsOf front).length =
      .ok (match afterAll? segments text with
        | some behind => (final.getD []).isSuffixOf behind
        | none => false) := by
  have all := scanAll_octetsOf segments front text
  rw [scanFrom]
  split at all
  · obtain ⟨passed, rfl, ends⟩ := all
    rw [ends, ← List.append_assoc]
    cases final with
    | none => rfl
    | some final => exact congrArg Except.ok (final_octetsOf (front ++ passed) _ final)
  · rw [all]
    rfl

/-- No cursor is misplaced, and the scan decides what the search decides. -/
theorem scan_eq (rule : Rule) (value : String) (initial : Option String) (any : List String)
    (final : Option String) :
    rule.scan value initial any final = .ok (rule.substrings value initial any final) := by
  simp only [scan, substrings, segmentsMatch, utf8_eq_octetsOf]
  have segments : (any.map fun text => octetsOf (rule.prepare text).toList) =
      (any.map fun text => (rule.prepare text).toList).map octetsOf := by
    rw [List.map_map]
    rfl
  have last : (final.map fun text => octetsOf (rule.prepare text).toList) =
      (final.map fun text => (rule.prepare text).toList).map octetsOf := by
    rw [Option.map_map]
    rfl
  rw [segments, last]
  cases initial with
  | none => exact scanFrom_octetsOf [] _ _ _
  | some initial =>
    simp only [Option.map_some, Option.getD_some]
    cases front : afterFront? (rule.prepare initial).toList (rule.prepare value).toList with
    | some rest =>
      have whole := afterFront?_eq_some_iff.1 front
      have found : (octetsOf (rule.prepare initial).toList).isPrefixOf
          (octetsOf (rule.prepare value).toList) = true := by
        rw [List.isPrefixOf_iff_prefix, octetsOf_prefix_iff, whole]
        exact List.prefix_append _ rest
      rw [if_pos found, whole]
      exact scanFrom_octetsOf _ rest _ _
    | none =>
      have absent : ¬(octetsOf (rule.prepare initial).toList).isPrefixOf
          (octetsOf (rule.prepare value).toList) = true := by
        rw [List.isPrefixOf_iff_prefix, octetsOf_prefix_iff]
        rintro ⟨rest, whole⟩
        rw [afterFront?_eq_some_iff.2 whole.symm] at front
        cases front
      rw [if_neg absent]
      rfl

/-- Leftmost search without going back misses no match, and the cursor is always at the
edge of a character. -/
theorem substrings_spec (rule : Rule) (value : String) (initial : Option String)
    (any : List String) (final : Option String) :
    (rule.substrings value initial any final = true ↔
      rule.HasSegments value initial any final) ∧
    rule.scan value initial any final = .ok (rule.substrings value initial any final) :=
  ⟨substrings_iff, scan_eq rule value initial any final⟩

end Matching.Rule

end LdapService

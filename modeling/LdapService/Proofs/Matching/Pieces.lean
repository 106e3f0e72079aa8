import LdapService.Matching.Registry
import LdapService.Proofs.Matching.Segments

/-!
A value and its own pieces. All characters but one are prepared alike wherever they stand,
so a value cut anywhere has its pieces as segments. The exception is a capital sigma under
full lower-casing: its small form depends on what is around it, and a cut takes that away.
-/

namespace LdapService

namespace Text

/-- Lowering of a part of a text, with what stands before it, nearest first, and after it. -/
def lowerWithin (before after : List Char) : List Char → List Char
  | [] => []
  | c :: rest =>
      (if c = '\u03a3' then [lowerSigma before (rest ++ after)] else lowerChar c)
        ++ lowerWithin (c :: before) after rest

theorem lowerAfter_append (before part after : List Char) :
    lowerAfter before (part ++ after) =
      lowerWithin before after part ++ lowerAfter (part.reverse ++ before) after := by
  induction part generalizing before with
  | nil => rfl
  | cons c rest ih =>
    rw [List.cons_append, lowerAfter, lowerWithin, ih, List.reverse_cons]
    simp only [List.append_assoc, List.singleton_append]

theorem lowerWithin_nil (before text : List Char) :
    lowerWithin before [] text = lowerAfter before text := by
  have alone := lowerAfter_append before text []
  rw [List.append_nil, lowerAfter, List.append_nil] at alone
  exact alone.symm

theorem length_lowerWithin (before after before' after' part : List Char) :
    (lowerWithin before after part).length = (lowerWithin before' after' part).length := by
  induction part generalizing before before' with
  | nil => rfl
  | cons c rest ih =>
    rw [lowerWithin, lowerWithin, List.length_append, List.length_append,
      ih (c :: before) (c :: before')]
    split
    · rfl
    · rfl

/-- Only a capital sigma tells what is around the part. -/
theorem lowerWithin_eq_iff {before after before' after' part : List Char} :
    lowerWithin before after part = lowerWithin before' after' part ↔
      ∀ front back, part = front ++ '\u03a3' :: back →
        lowerSigma (front.reverse ++ before) (back ++ after) =
          lowerSigma (front.reverse ++ before') (back ++ after') := by
  induction part generalizing before before' with
  | nil => simp [lowerWithin]
  | cons c rest ih =>
    have later : (∀ front back, rest = front ++ '\u03a3' :: back →
        lowerSigma (front.reverse ++ c :: before) (back ++ after) =
          lowerSigma (front.reverse ++ c :: before') (back ++ after')) ↔
        ∀ front back, c :: rest = c :: front ++ '\u03a3' :: back →
          lowerSigma ((c :: front).reverse ++ before) (back ++ after) =
            lowerSigma ((c :: front).reverse ++ before') (back ++ after') := by
      simp only [List.cons_append, List.cons.injEq, true_and, List.reverse_cons,
        List.append_assoc, List.nil_append]
    rw [lowerWithin, lowerWithin]
    constructor
    · intro same front back whole
      obtain ⟨here, others⟩ := List.append_inj same (by split <;> rfl)
      cases front with
      | nil =>
        obtain ⟨rfl, rfl⟩ := List.cons.inj whole
        simpa using here
      | cons d front =>
        obtain ⟨rfl, rfl⟩ := List.cons.inj whole
        exact later.1 (ih.1 others) front back rfl
    · intro alike
      have others := ih.2 (later.2 fun front back whole => alike _ back whole)
      rw [others]
      split
      · next sigma =>
        have here := alike [] rest (by rw [sigma]; rfl)
        rw [List.reverse_nil, List.nil_append, List.nil_append] at here
        rw [here]
      · rfl

/-- Each capital sigma of each piece has the small form in its piece that it has in the
whole text, whatever stands before the text. -/
def SigmasAgree (before : List Char) (pieces : List (List Char)) : Prop :=
  ∀ earlier piece later front back,
    pieces = earlier ++ piece :: later → piece = front ++ '\u03a3' :: back →
      lowerSigma (front.reverse ++ (earlier.flatten.reverse ++ before)) (back ++ later.flatten) =
        lowerSigma front.reverse back

theorem sigmasAgree_nil (before : List Char) : SigmasAgree before [] := by
  intro earlier piece later front back whole
  cases earlier with
  | nil => cases whole
  | cons first earlier => cases whole

theorem sigmasAgree_cons {before piece : List Char} {pieces : List (List Char)} :
    SigmasAgree before (piece :: pieces) ↔
      (∀ front back, piece = front ++ '\u03a3' :: back →
        lowerSigma (front.reverse ++ before) (back ++ pieces.flatten) =
          lowerSigma front.reverse back) ∧
      SigmasAgree (piece.reverse ++ before) pieces := by
  constructor
  · intro agree
    refine ⟨fun front back same => agree [] piece pieces front back rfl same, ?_⟩
    intro earlier other later front back whole same
    have inside := agree (piece :: earlier) other later front back (by rw [whole]; rfl) same
    rw [List.flatten_cons, List.reverse_append, List.append_assoc] at inside
    exact inside
  · rintro ⟨here, others⟩ earlier other later front back whole same
    cases earlier with
    | nil =>
      obtain ⟨rfl, rfl⟩ := List.cons.inj whole
      exact here front back same
    | cons first earlier =>
      obtain ⟨rfl, rfl⟩ := List.cons.inj whole
      rw [List.flatten_cons, List.reverse_append, List.append_assoc]
      exact others earlier other later front back rfl same

theorem length_lowerAfter_flatten (before : List Char) (pieces : List (List Char)) :
    (lowerAfter before pieces.flatten).length = (pieces.flatMap (lowerAfter [])).length := by
  induction pieces generalizing before with
  | nil => rfl
  | cons piece pieces ih =>
    rw [List.flatten_cons, lowerAfter_append, List.flatMap_cons, List.length_append,
      List.length_append, ih, ← lowerWithin_nil [] piece,
      length_lowerWithin before pieces.flatten [] [] piece]

/-- A text is lowered piece by piece exactly when the cuts change no sigma. -/
theorem lowerAfter_flatten_iff {before : List Char} {pieces : List (List Char)} :
    lowerAfter before pieces.flatten = pieces.flatMap (lowerAfter []) ↔
      SigmasAgree before pieces := by
  induction pieces generalizing before with
  | nil => exact ⟨fun _ => sigmasAgree_nil before, fun _ => rfl⟩
  | cons piece pieces ih =>
    have alone : lowerWithin before pieces.flatten piece = lowerAfter [] piece ↔
        ∀ front back, piece = front ++ '\u03a3' :: back →
          lowerSigma (front.reverse ++ before) (back ++ pieces.flatten) =
            lowerSigma front.reverse back := by
      rw [← lowerWithin_nil, lowerWithin_eq_iff]
      simp only [List.append_nil]
    have lengths : (lowerWithin before pieces.flatten piece).length =
        (lowerAfter [] piece).length := by
      rw [← lowerWithin_nil]
      exact length_lowerWithin _ _ _ _ piece
    rw [List.flatten_cons, lowerAfter_append, List.flatMap_cons, sigmasAgree_cons, ← alone, ← ih]
    constructor
    · intro same
      exact List.append_inj same lengths
    · rintro ⟨here, others⟩
      rw [here, others]

end Text

namespace Matching.Rule

open Text

theorem sublist_flatten_zipWith {segments gaps : List (List Char)}
    (same : gaps.length = segments.length) :
    segments.flatten.Sublist (List.zipWith (· ++ ·) segments gaps).flatten := by
  induction segments generalizing gaps with
  | nil => exact List.nil_sublist _
  | cons segment segments ih =>
    obtain ⟨gap, gaps, rfl⟩ := List.exists_cons_of_length_eq_add_one same
    rw [List.length_cons, List.length_cons, Nat.add_right_cancel_iff] at same
    rw [List.zipWith_cons_cons, List.flatten_cons, List.flatten_cons]
    exact (List.sublist_append_left segment gap).append (ih same)

/-- Segments that are together as long as the text leave nothing between them. -/
theorem segmentsMatch_iff_of_length {initial : List Char} {any : List (List Char)}
    {final text : List Char} (full : text.length = (initial ++ any.flatten ++ final).length) :
    segmentsMatch initial any final text = true ↔ text = initial ++ any.flatten ++ final := by
  rw [segmentsMatch_iff]
  constructor
  · rintro ⟨gap, gaps, same, whole⟩
    have between := sublist_flatten_zipWith same
    have inside : (initial ++ any.flatten ++ final).Sublist text :=
      whole ▸ ((List.sublist_append_left initial gap).append between).append (List.Sublist.refl final)
    exact (inside.eq_of_length full.symm).symm
  · intro whole
    have nothing (any : List (List Char)) :
        List.zipWith (· ++ ·) any (List.replicate any.length []) = any := by
      induction any with
      | nil => rfl
      | cons segment any ih =>
        rw [List.length_cons, List.replicate_succ, List.zipWith_cons_cons, ih, List.append_nil]
    refine ⟨[], List.replicate any.length [], List.length_replicate, ?_⟩
    rw [nothing, List.append_nil, whole]

theorem apply_eq_flatMap {preparation : Preparation} (h : preparation ≠ .caseFold) :
    ∃ image : Char → List Char, ∀ text,
      (preparation.apply text).toList = text.toList.flatMap image := by
  cases preparation with
  | exact => exact ⟨fun c => [c], fun text => by simp [Preparation.apply]⟩
  | caseFold => exact absurd rfl h
  | asciiCaseFold =>
    refine ⟨fun c => [c.toLower], fun text => ?_⟩
    rw [Preparation.apply, Text.asciiLower, String.toList_ofList, ← List.map_eq_flatMap]
  | removeSpaces =>
    refine ⟨fun c => [c].filter (· != ' '), fun text => ?_⟩
    rw [Preparation.apply, String.toList_ofList, ← List.filter_flatMap, List.flatMap_singleton']

theorem toList_prepare_join (rule : Rule) (pieces : List String) :
    (rule.prepare (String.join pieces)).toList.length =
        (pieces.flatMap fun piece => (rule.prepare piece).toList).length ∧
      ((rule.prepare (String.join pieces)).toList =
          (pieces.flatMap fun piece => (rule.prepare piece).toList) ↔
        (rule.preparation = .caseFold → SigmasAgree [] (pieces.map String.toList))) := by
  have whole : (String.join pieces).toList = (pieces.map String.toList).flatten := by
    rw [String.toList_join, List.flatMap_def]
  by_cases folds : rule.preparation = .caseFold
  · have prepared (text : String) : (rule.prepare text).toList = lowerAfter [] text.toList := by
      rw [prepare, folds, Preparation.apply, lower, String.toList_ofList]
    have parts : (pieces.flatMap fun piece => (rule.prepare piece).toList) =
        (pieces.map String.toList).flatMap (lowerAfter []) := by
      simp only [prepared, List.flatMap_map]
    rw [parts, prepared, whole]
    refine ⟨length_lowerAfter_flatten [] _, lowerAfter_flatten_iff.trans ?_⟩
    exact ⟨fun agree _ => agree, fun agree => agree folds⟩
  · obtain ⟨image, prepared⟩ := apply_eq_flatMap folds
    have same : (rule.prepare (String.join pieces)).toList =
        pieces.flatMap fun piece => (rule.prepare piece).toList := by
      simp only [prepare, prepared, String.toList_join, List.flatMap_assoc]
    exact ⟨congrArg List.length same, fun _ folded => absurd folded folds, fun _ => same⟩

/-- A value has its own pieces as segments, unless a cut changes the small form of a
capital sigma. -/
theorem substrings_pieces_iff (rule : Rule) (first : String) (middle : List String)
    (last : String) :
    rule.substrings (String.join (first :: middle ++ [last])) (some first) middle (some last) =
        true ↔
      (rule.preparation = .caseFold →
        SigmasAgree [] ((first :: middle ++ [last]).map String.toList)) := by
  obtain ⟨full, whole⟩ := toList_prepare_join rule (first :: middle ++ [last])
  have parts : ((first :: middle ++ [last]).flatMap fun piece => (rule.prepare piece).toList) =
      (rule.prepare first).toList ++ (middle.map fun piece => (rule.prepare piece).toList).flatten ++
        (rule.prepare last).toList := by
    rw [List.flatMap_append, List.flatMap_cons, List.flatMap_singleton, ← List.flatMap_def]
  rw [parts] at full whole
  rw [← whole]
  exact segmentsMatch_iff_of_length full

/-- The sigma at the end of the first piece is no longer at the end of a word in the value. -/
theorem capital_sigma_cut :
    (Registry.standard.find? "caseIgnoreSubstringsMatch").map
        (·.substrings ("ΑΣ" ++ "Α") (some "ΑΣ") [] (some "Α")) = some false := by
  decide +kernel

end Matching.Rule

end LdapService

import LdapService.Proofs.Dn.Containment
import LdapService.Proofs.Text.AsciiCase
import Mathlib.Data.List.Induction
import Mathlib.Logic.Relation

/-!
Spellings of one name. A name may be written with ASCII letters in either case, and with
blanks at its ends, beside a comma and beside the first equals sign of a component; none of
this is left in its normal form. A blank is put into one component, at an end of it or at its
first equals sign, and the other components stand as they were.
-/

namespace LdapService.Dn

open Text

/-- Between `before` and `behind` a blank may stand. -/
inductive BlankMayStand : List Char → List Char → Prop
  | atStart (behind : List Char) : BlankMayStand [] behind
  | atEnd (before : List Char) : BlankMayStand before []
  | beforeComma (before behind : List Char) : BlankMayStand before (',' :: behind)
  | afterComma (before behind : List Char) : BlankMayStand (before ++ [',']) behind
  | beforeEquals {front type : List Char} (begins : AtComponent front) (comma : ',' ∉ type)
      (first : '=' ∉ type) (behind : List Char) : BlankMayStand (front ++ type) ('=' :: behind)
  | afterEquals {front type : List Char} (begins : AtComponent front) (comma : ',' ∉ type)
      (first : '=' ∉ type) (behind : List Char) :
      BlankMayStand (front ++ (type ++ ['='])) behind

/-- The second name is the first one with letters in another case, or with one blank more. -/
inductive Respelled : String → String → Prop
  | letterCase {dn dn' : String} (same : asciiLower dn = asciiLower dn') : Respelled dn dn'
  | blank {before behind : List Char} {c : Char} (place : BlankMayStand before behind)
      (blank : isBlank c = true) :
      Respelled (String.ofList (before ++ behind)) (String.ofList (before ++ c :: behind))

/-- Both are spellings of one name: letters change their case, blanks come and go. -/
def IsSpellingOf : String → String → Prop :=
  Relation.EqvGen Respelled

/-- Component by component the same in normal form. -/
def SameParts (text text' : List Char) : Prop :=
  (text.splitOn ',').map normalizeComponent = (text'.splitOn ',').map normalizeComponent

theorem normalize_eq_of_sameParts {dn dn' : String} (same : SameParts dn.toList dn'.toList) :
    normalize dn = normalize dn' := by
  rw [normalize, normalize, same]

theorem sameParts_of_component {component component' : List Char} (comma : ',' ∉ component)
    (comma' : ',' ∉ component')
    (same : normalizeComponent component = normalizeComponent component') :
    SameParts component component' := by
  rw [SameParts, List.splitOn_eq_singleton comma, List.splitOn_eq_singleton comma',
    List.map_singleton, List.map_singleton, same]

theorem SameParts.append_left {text text' front : List Char} (same : SameParts text text')
    (begins : AtComponent front) : SameParts (front ++ text) (front ++ text') := by
  rcases begins with rfl | comma
  · exact same
  · obtain ⟨rest, rfl⟩ := List.getLast?_eq_some_iff.1 comma
    rw [SameParts] at same ⊢
    simp only [List.append_assoc, List.singleton_append, List.splitOn_append_cons_self,
      List.map_append, same]

theorem SameParts.append_right {text text' back : List Char} (same : SameParts text text')
    (ends : back = [] ∨ back.head? = some ',') : SameParts (text ++ back) (text' ++ back) := by
  rcases ends with rfl | comma
  · rwa [List.append_nil, List.append_nil]
  · obtain ⟨rest, rfl⟩ := List.head?_eq_some_iff.1 comma
    rw [SameParts] at same ⊢
    simp only [List.splitOn_append_cons_self, List.map_append, same]

theorem normalizeComponent_of_equals {type : List Char} (first : '=' ∉ type) (value : List Char) :
    normalizeComponent (type ++ '=' :: value) =
      (trim type).map Char.toLower ++ '=' :: lowerText (trim value) := by
  rw [normalizeComponent, splitFirst?_append first]

theorem normalizeComponent_of_absent {component : List Char} (absent : '=' ∉ component) :
    normalizeComponent component = lowerText (trim component) := by
  rw [normalizeComponent, splitFirst?_eq_none_iff.2 absent]

theorem exists_equals_or_not_mem (component : List Char) :
    (∃ type value, component = type ++ '=' :: value ∧ '=' ∉ type) ∨ '=' ∉ component := by
  cases split : splitFirst? '=' component with
  | none => exact .inr (splitFirst?_eq_none_iff.1 split)
  | some parts => exact .inl ⟨parts.1, parts.2, eq_of_splitFirst? split⟩

theorem normalizeComponent_toLower (component : List Char) :
    normalizeComponent (component.map Char.toLower) = normalizeComponent component := by
  have kept {text : List Char} (absent : '=' ∉ text) : '=' ∉ text.map Char.toLower := by
    rw [List.mem_map]
    rintro ⟨c, mem, same⟩
    exact absent ((toLower_eq_iff (by decide)).1 same ▸ mem)
  have value (text : List Char) :
      lowerText (trim (text.map Char.toLower)) = lowerText (trim text) := by
    rw [trim_toLower]
    exact lowerAfter_toLower [] (trim text)
  rcases exists_equals_or_not_mem component with ⟨front, back, rfl, first⟩ | absent
  · have mapped : (front ++ '=' :: back).map Char.toLower =
        front.map Char.toLower ++ '=' :: back.map Char.toLower := List.map_append
    rw [mapped, normalizeComponent_of_equals (kept first), normalizeComponent_of_equals first,
      trim_toLower, map_toLower_toLower, value]
  · rw [normalizeComponent_of_absent (kept absent), normalizeComponent_of_absent absent, value]

section Blank

variable {c : Char}

theorem ne_of_isBlank (blank : isBlank c = true) {d : Char} (solid : isBlank d = false) :
    c ≠ d := by
  rintro rfl
  rw [blank] at solid
  cases solid

theorem normalizeComponent_cons (blank : isBlank c = true) (component : List Char) :
    normalizeComponent (c :: component) = normalizeComponent component := by
  have other : '=' ≠ c := (ne_of_isBlank blank (by decide)).symm
  rcases exists_equals_or_not_mem component with ⟨front, back, rfl, first⟩ | absent
  · have first' : '=' ∉ c :: front := List.not_mem_cons_of_ne_of_not_mem other first
    rw [← List.cons_append, normalizeComponent_of_equals first',
      normalizeComponent_of_equals first, trim_cons blank]
  · have absent' : '=' ∉ c :: component := List.not_mem_cons_of_ne_of_not_mem other absent
    rw [normalizeComponent_of_absent absent', normalizeComponent_of_absent absent, trim_cons blank]

theorem normalizeComponent_concat (blank : isBlank c = true) (component : List Char) :
    normalizeComponent (component ++ [c]) = normalizeComponent component := by
  have other : '=' ≠ c := (ne_of_isBlank blank (by decide)).symm
  rcases exists_equals_or_not_mem component with ⟨front, back, rfl, first⟩ | absent
  · rw [List.append_assoc, List.cons_append, normalizeComponent_of_equals first,
      normalizeComponent_of_equals first, trim_concat blank]
  · have absent' : '=' ∉ component ++ [c] := by
      rw [List.mem_append, not_or]
      exact ⟨absent, List.not_mem_cons_of_ne_of_not_mem other List.not_mem_nil⟩
    rw [normalizeComponent_of_absent absent', normalizeComponent_of_absent absent,
      trim_concat blank]

theorem normalizeComponent_before_equals (blank : isBlank c = true) {type : List Char}
    (first : '=' ∉ type) (value : List Char) :
    normalizeComponent (type ++ c :: '=' :: value) = normalizeComponent (type ++ '=' :: value) := by
  have other : '=' ≠ c := (ne_of_isBlank blank (by decide)).symm
  have first' : '=' ∉ type ++ [c] :=
    List.not_mem_append first (List.not_mem_cons_of_ne_of_not_mem other List.not_mem_nil)
  rw [List.append_cons, normalizeComponent_of_equals first', normalizeComponent_of_equals first,
    trim_concat blank]

theorem normalizeComponent_after_equals (blank : isBlank c = true) {type : List Char}
    (first : '=' ∉ type) (value : List Char) :
    normalizeComponent (type ++ '=' :: c :: value) = normalizeComponent (type ++ '=' :: value) := by
  rw [normalizeComponent_of_equals first, normalizeComponent_of_equals first, trim_cons blank]

end Blank

theorem exists_begin (before : List Char) :
    ∃ front first, before = front ++ first ∧ AtComponent front ∧ ',' ∉ first := by
  induction before using List.reverseRecOn with
  | nil => exact ⟨[], [], rfl, .inl rfl, List.not_mem_nil⟩
  | append_singleton before c ih =>
    by_cases comma : c = ','
    · subst comma
      exact ⟨before ++ [','], [], (List.append_nil _).symm, .inr List.getLast?_concat,
        List.not_mem_nil⟩
    · obtain ⟨front, first, rfl, begins, absent⟩ := ih
      refine ⟨front, first ++ [c], List.append_assoc front first [c], begins, ?_⟩
      rw [List.mem_append, List.mem_singleton, not_or]
      exact ⟨absent, Ne.symm comma⟩

theorem exists_end (behind : List Char) :
    ∃ last back, behind = last ++ back ∧ (back = [] ∨ back.head? = some ',') ∧ ',' ∉ last := by
  induction behind with
  | nil => exact ⟨[], [], rfl, .inl rfl, List.not_mem_nil⟩
  | cons c behind ih =>
    by_cases comma : c = ','
    · subst comma
      exact ⟨[], ',' :: behind, rfl, .inr rfl, List.not_mem_nil⟩
    · obtain ⟨last, back, rfl, ends, absent⟩ := ih
      exact ⟨c :: last, back, rfl, ends,
        List.not_mem_cons_of_ne_of_not_mem (Ne.symm comma) absent⟩

/-- What changes nothing about one component changes nothing about the name. -/
theorem sameParts_within {front : List Char} (first last : List Char) {back : List Char} {c : Char}
    (begins : AtComponent front) (ends : back = [] ∨ back.head? = some ',') (comma : ',' ∉ first)
    (comma' : ',' ∉ last) (blank : isBlank c = true)
    (same : normalizeComponent (first ++ c :: last) = normalizeComponent (first ++ last)) :
    SameParts (front ++ first ++ (last ++ back)) (front ++ first ++ c :: (last ++ back)) := by
  have solid : ',' ≠ c := (ne_of_isBlank blank (by decide)).symm
  have whole : ',' ∉ first ++ last := List.not_mem_append comma comma'
  have whole' : ',' ∉ first ++ c :: last :=
    List.not_mem_append comma (List.not_mem_cons_of_ne_of_not_mem solid comma')
  have parts := (sameParts_of_component whole whole' same.symm).append_left begins
  have all := parts.append_right ends
  simpa only [List.append_assoc, List.cons_append] using all

theorem BlankMayStand.sameParts {before behind : List Char} {c : Char}
    (place : BlankMayStand before behind) (blank : isBlank c = true) :
    SameParts (before ++ behind) (before ++ c :: behind) := by
  cases place with
  | atStart =>
    obtain ⟨last, back, rfl, ends, comma⟩ := exists_end behind
    exact sameParts_within [] last (.inl rfl) ends List.not_mem_nil comma blank
      (normalizeComponent_cons blank last)
  | atEnd =>
    obtain ⟨front, first, rfl, begins, comma⟩ := exists_begin before
    exact sameParts_within first [] begins (.inl rfl) comma List.not_mem_nil blank
      (by rw [List.append_nil, normalizeComponent_concat blank])
  | beforeComma before behind =>
    obtain ⟨front, first, rfl, begins, comma⟩ := exists_begin before
    exact sameParts_within first [] begins (.inr rfl) comma List.not_mem_nil blank
      (by rw [List.append_nil, normalizeComponent_concat blank])
  | afterComma before behind =>
    obtain ⟨last, back, rfl, ends, comma⟩ := exists_end behind
    have begins : AtComponent (before ++ [',']) := .inr List.getLast?_concat
    have inserted := sameParts_within [] last begins ends List.not_mem_nil comma blank
      (normalizeComponent_cons blank last)
    rwa [List.append_nil] at inserted
  | @beforeEquals _ type begins comma first behind =>
    obtain ⟨last, back, rfl, ends, comma'⟩ := exists_end behind
    have equals : ',' ∉ '=' :: last := List.not_mem_cons_of_ne_of_not_mem (by decide) comma'
    exact sameParts_within type ('=' :: last) begins ends comma equals blank
      (normalizeComponent_before_equals blank first last)
  | @afterEquals _ type begins comma first behind =>
    obtain ⟨last, back, rfl, ends, comma'⟩ := exists_end behind
    have equals : ',' ∉ type ++ ['='] := List.not_mem_append comma (by decide)
    have same : normalizeComponent (type ++ ['='] ++ c :: last) =
        normalizeComponent (type ++ ['='] ++ last) := by
      rw [List.append_assoc, List.append_assoc]
      exact normalizeComponent_after_equals blank first last
    exact sameParts_within (type ++ ['=']) last begins ends equals comma' blank same

theorem sameParts_of_letterCase {dn dn' : String} (same : asciiLower dn = asciiLower dn') :
    SameParts dn.toList dn'.toList := by
  have lowered (text : List Char) : SameParts (text.map Char.toLower) text := by
    rw [SameParts, splitOn_toLower (by decide), List.map_map]
    exact List.map_congr_left fun component _ => normalizeComponent_toLower component
  rw [asciiLower, asciiLower, String.ofList_inj] at same
  rw [SameParts, ← lowered, same, lowered]

theorem Respelled.normalize_eq {dn dn' : String} (respelled : Respelled dn dn') :
    normalize dn = normalize dn' := by
  apply normalize_eq_of_sameParts
  cases respelled with
  | letterCase same => exact sameParts_of_letterCase same
  | blank place blank =>
    rw [String.toList_ofList, String.toList_ofList]
    exact place.sameParts blank

/-- All spellings of a name have one normal form. -/
theorem IsSpellingOf.normalize_eq {dn dn' : String} (spelling : IsSpellingOf dn dn') :
    normalize dn = normalize dn' := by
  induction spelling with
  | rel _ _ respelled => exact respelled.normalize_eq
  | refl _ => rfl
  | symm _ _ _ same => exact same.symm
  | trans _ _ _ _ _ same same' => exact same.trans same'

end LdapService.Dn

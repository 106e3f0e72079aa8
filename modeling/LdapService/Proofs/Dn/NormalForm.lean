import LdapService.Dn
import LdapService.Proofs.Text.Trim

/-!
The normal form of a name is its own normal form. Component by component: a
normalized one is trimmed and small, its first `=` stands where the first one
stood before, and it has no comma. So the commas of a normalized name are those
that were put between its components.
-/

namespace LdapService.Dn

open Text

theorem splitFirst?_eq_none_iff {separator : Char} {text : List Char} :
    splitFirst? separator text = none ↔ separator ∉ text := by
  induction text with
  | nil => simp [splitFirst?]
  | cons c rest ih =>
    rw [splitFirst?]
    by_cases here : c = separator
    · simp [here]
    · simp [here, Ne.symm here, ih]

theorem splitFirst?_append {separator : Char} {front : List Char} (absent : separator ∉ front)
    (back : List Char) :
    splitFirst? separator (front ++ separator :: back) = some (front, back) := by
  induction front with
  | nil => simp [splitFirst?]
  | cons c rest ih =>
    rw [List.mem_cons, not_or] at absent
    rw [List.cons_append, splitFirst?, if_neg (Ne.symm absent.1), ih absent.2]
    rfl

theorem eq_of_splitFirst? {separator : Char} {text front back : List Char}
    (h : splitFirst? separator text = some (front, back)) :
    text = front ++ separator :: back ∧ separator ∉ front := by
  induction text generalizing front with
  | nil => cases h
  | cons c rest ih =>
    rw [splitFirst?] at h
    split at h
    · next here =>
      cases h
      exact ⟨by rw [here]; rfl, List.not_mem_nil⟩
    · next other =>
      rw [Option.map_eq_some_iff] at h
      obtain ⟨⟨front', back'⟩, found, same⟩ := h
      cases same
      obtain ⟨rfl, absent⟩ := ih found
      refine ⟨rfl, ?_⟩
      rw [List.mem_cons, not_or]
      exact ⟨Ne.symm other, absent⟩

theorem not_mem_lowerText {separator : Char} (ascii : separator.toNat ≤ 0x60) {text : List Char}
    (absent : separator ∉ text) : separator ∉ lowerText text := by
  intro mem
  rcases (mem_lowerAfter mem).1 with old | new
  · exact absent old
  · exact ne_of_isReached new ascii rfl

theorem not_mem_toLower {separator : Char} (ascii : separator.toNat ≤ 0x60) {text : List Char}
    (absent : separator ∉ text) : separator ∉ text.map Char.toLower := by
  intro mem
  obtain ⟨c, mem, lowered⟩ := List.mem_map.1 mem
  rcases toLower_reached c with same | new
  · rw [same] at lowered
    exact absent (lowered ▸ mem)
  · exact ne_of_isReached new ascii lowered

theorem map_toLower_toLower (text : List Char) :
    (text.map Char.toLower).map Char.toLower = text.map Char.toLower := by
  rw [List.map_map]
  apply List.map_congr_left
  intro c _
  exact toLower_toLower c

theorem normalizeComponent_idem (component : List Char) :
    normalizeComponent (normalizeComponent component) = normalizeComponent component := by
  have value (text : List Char) : lowerText (trim (lowerText (trim text))) =
      lowerText (trim text) := by
    have trimmed := (isTrimmed_trim text).lowerAfter []
    rw [lowerText, lowerText, trim_of_isTrimmed trimmed, lowerAfter_lowerAfter]
  cases split : splitFirst? '=' component with
  | none =>
    have absent := splitFirst?_eq_none_iff.1 split
    have trimmed : '=' ∉ trim component := fun mem => absent (mem_of_mem_trim mem)
    have lowered := not_mem_lowerText (by decide) trimmed
    have same : normalizeComponent component = lowerText (trim component) := by
      rw [normalizeComponent, split]
    rw [same, normalizeComponent, splitFirst?_eq_none_iff.2 lowered]
    exact value component
  | some parts =>
    obtain ⟨front, back⟩ := parts
    obtain ⟨-, absent⟩ := eq_of_splitFirst? split
    have trimmed : '=' ∉ trim front := fun mem => absent (mem_of_mem_trim mem)
    have lowered := not_mem_toLower (by decide) trimmed
    have same : normalizeComponent component =
        (trim front).map Char.toLower ++ '=' :: lowerText (trim back) := by
      rw [normalizeComponent, split]
    rw [same, normalizeComponent, splitFirst?_append lowered]
    simp only
    rw [trim_of_isTrimmed (isTrimmed_trim front).toLower, map_toLower_toLower, value]

theorem comma_not_mem_normalizeComponent {component : List Char} (absent : ',' ∉ component) :
    ',' ∉ normalizeComponent component := by
  unfold normalizeComponent
  split
  · next front back split =>
    obtain ⟨same, -⟩ := eq_of_splitFirst? split
    rw [same, List.mem_append, List.mem_cons, not_or, not_or] at absent
    obtain ⟨inFront, -, inBack⟩ := absent
    have front' := not_mem_toLower (by decide) fun mem => inFront (mem_of_mem_trim mem)
    have back' := not_mem_lowerText (by decide) fun mem => inBack (mem_of_mem_trim mem)
    rw [List.mem_append, List.mem_cons, not_or, not_or]
    exact ⟨front', by decide, back'⟩
  · exact not_mem_lowerText (by decide) fun mem => absent (mem_of_mem_trim mem)

theorem not_mem_of_mem_splitOn {separator : Char} {text piece : List Char}
    (mem : piece ∈ text.splitOn separator) : separator ∉ piece := by
  induction text generalizing piece with
  | nil =>
    rw [List.splitOn_nil, List.mem_singleton] at mem
    rw [mem]
    exact List.not_mem_nil
  | cons c rest ih =>
    rw [List.splitOn_cons_eq_if_modifyHead] at mem
    split at mem
    · rcases List.mem_cons.1 mem with rfl | mem
      · exact List.not_mem_nil
      · exact ih mem
    · next other =>
      rw [beq_iff_eq] at other
      cases pieces : rest.splitOn separator with
      | nil => exact absurd pieces (List.splitOn_ne_nil _ _)
      | cons first others =>
        rw [pieces] at mem ih
        rw [List.modifyHead_cons] at mem
        rcases List.mem_cons.1 mem with rfl | mem
        · rw [List.mem_cons, not_or]
          exact ⟨Ne.symm other, ih List.mem_cons_self⟩
        · exact ih (List.mem_cons_of_mem first mem)

def normalComponents (dn : String) : List (List Char) :=
  ((dn.toList.splitOn ',').map normalizeComponent).filter (· ≠ [])

/-- A component as it stands in a normal form. -/
structure IsNormal (component : List Char) : Prop where
  filled : component ≠ []
  comma : ',' ∉ component
  same : normalizeComponent component = component

theorem isNormal_of_mem {dn : String} {component : List Char}
    (mem : component ∈ normalComponents dn) : IsNormal component := by
  rw [normalComponents, List.mem_filter, List.mem_map] at mem
  obtain ⟨⟨piece, mem, rfl⟩, filled⟩ := mem
  refine ⟨by simpa using filled, ?_, normalizeComponent_idem piece⟩
  exact comma_not_mem_normalizeComponent (not_mem_of_mem_splitOn mem)

theorem normalComponents_ofComponents {components : List (List Char)}
    (normal : ∀ component ∈ components, IsNormal component) :
    normalComponents (ofComponents components) = components := by
  by_cases none : components = []
  · subst none
    decide
  · have commas (component : List Char) (mem : component ∈ components) : ',' ∉ component :=
      (normal component mem).comma
    have same : components.map normalizeComponent = components := by
      rw [List.map_congr_left fun component mem => (normal component mem).same, List.map_id']
    rw [normalComponents, ofComponents, String.toList_ofList,
      List.splitOn_intercalate ',' commas none, same, List.filter_eq_self]
    intro component mem
    simpa using (normal component mem).filled

theorem normalize_eq (dn : String) : normalize dn = ofComponents (normalComponents dn) := rfl

theorem normalize_normalize (dn : String) : normalize (normalize dn) = normalize dn := by
  have normal (component : List Char) (mem : component ∈ normalComponents dn) :
      IsNormal component := isNormal_of_mem mem
  rw [normalize_eq, normalize_eq dn, normalComponents_ofComponents normal]

end LdapService.Dn

/-!
Segments of a text. The search is leftmost: what it returns is the longest
rest of the text that follows an occurrence.
-/

namespace LdapService.Text

def afterFront? (segment text : List Char) : Option (List Char) :=
  if segment.isPrefixOf text then some (text.drop segment.length) else none

def afterFirst? (segment : List Char) : List Char → Option (List Char)
  | [] => afterFront? segment []
  | c :: rest =>
      match afterFront? segment (c :: rest) with
      | some after => some after
      | none => afterFirst? segment rest

def mentions (word : String) (text : List Char) : Bool :=
  (afterFirst? word.toList text).isSome

theorem afterFront?_eq_some_iff {segment text after : List Char} :
    afterFront? segment text = some after ↔ text = segment ++ after := by
  simp only [afterFront?]
  constructor
  · intro h
    split at h
    · next front =>
      obtain ⟨rest, rfl⟩ := List.isPrefixOf_iff_prefix.1 front
      obtain rfl := Option.some.inj h
      simp
    · cases h
  · rintro rfl
    simp [List.isPrefixOf_iff_prefix]

end LdapService.Text

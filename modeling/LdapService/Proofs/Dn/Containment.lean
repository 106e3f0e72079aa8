import LdapService.Proofs.Dn.Children
import LdapService.Proofs.Dn.Within

/-!
A normalized name lies within another exactly if the components of the other are the last
ones of its own. The test looks at texts and not at components, but a comma has to stand
before the base, and no component of a normalized name has a comma. So containment is a
partial order on normalized names, and a base at the end of a name is no base of it where
it begins in the middle of a component.
-/

namespace LdapService.Dn

def AtComponent (front : List Char) : Prop :=
  front = [] ∨ front.getLast? = some ','

theorem components_append {dn : String} {front back : List Char}
    (whole : dn.toList = front ++ ',' :: back) :
    components dn = components (String.ofList front) ++ components (String.ofList back) := by
  simp only [components, whole, String.toList_ofList, List.splitOn_append_cons_self,
    List.filter_append]

/-- This much holds of all names, in normal form or not. -/
theorem components_suffix_of_isWithin {dn base : String} (h : isWithin dn base = true) :
    components base <:+ components dn := by
  rcases isWithin_iff.1 h with rfl | rfl | ⟨front, whole⟩
  · exact List.nil_suffix
  · exact List.suffix_rfl
  · rw [components_append whole.symm, String.ofList_toList]
    exact List.suffix_append _ _

theorem isWithin_self (dn : String) : isWithin dn dn = true :=
  isWithin_iff.2 (.inr (.inl rfl))

/-- Going up, one component is taken away after the other. -/
theorem isWithin_ofComponents {parts base : List (List Char)}
    (normal : ∀ part ∈ parts, IsNormal part) (last : base <:+ parts) :
    isWithin (ofComponents parts) (ofComponents base) = true := by
  induction parts with
  | nil =>
    obtain rfl := List.suffix_nil.1 last
    exact isWithin_self _
  | cons first rest ih =>
    rcases List.suffix_cons_iff.1 last with rfl | above
    · exact isWithin_self _
    · have up : isWithin (ofComponents (first :: rest)) (ofComponents rest) = true :=
        isWithin_of_parent (parent_ofComponents normal)
      have reached := ih (fun part mem => normal part (List.mem_cons_of_mem first mem)) above
      exact isWithin_trans up reached

theorem ofComponents_components (dn : String) :
    ofComponents (components (normalize dn)) = normalize dn := by
  rw [components_normalize, ← normalize_eq]

theorem isWithin_iff_suffix {dn base : String} :
    isWithin (normalize dn) (normalize base) = true ↔
      components (normalize base) <:+ components (normalize dn) := by
  refine ⟨components_suffix_of_isWithin, fun last => ?_⟩
  have normal : ∀ part ∈ components (normalize dn), IsNormal part := by
    rw [components_normalize]
    exact fun _ => isNormal_of_mem
  have reached := isWithin_ofComponents normal last
  rwa [ofComponents_components, ofComponents_components] at reached

theorem isWithin_antisymm {dn base : String}
    (below : isWithin (normalize dn) (normalize base) = true)
    (above : isWithin (normalize base) (normalize dn) = true) : normalize dn = normalize base := by
  have shorter := isWithin_iff_suffix.1 below
  have longer := isWithin_iff_suffix.1 above
  have same : components (normalize base) = components (normalize dn) :=
    shorter.eq_of_length_le longer.length_le
  rw [← ofComponents_components dn, ← ofComponents_components base, same]

theorem isWithin_append_iff {dn base : String} {front : List Char}
    (whole : dn.toList = front ++ base.toList) :
    isWithin dn base = true ↔ base = "" ∨ AtComponent front := by
  have equal : dn = base ↔ front = [] := by
    rw [← String.toList_inj, whole, List.append_left_eq_self]
  have below : (',' :: base.toList) <:+ dn.toList ↔ front.getLast? = some ',' := by
    rw [whole, List.getLast?_eq_some_iff]
    constructor
    · rintro ⟨rest, same⟩
      rw [List.append_cons, List.append_cancel_right_eq] at same
      exact ⟨rest, same.symm⟩
    · rintro ⟨rest, rfl⟩
      exact ⟨rest, by simp⟩
  rw [isWithin_iff, AtComponent, equal, below]

/-- Containment is the order of names by their last components. -/
theorem containment_by_components (dn base : String) :
    (isWithin (normalize dn) (normalize base) = true ↔
      components (normalize base) <:+ components (normalize dn)) ∧
    isWithin (normalize dn) (normalize dn) = true ∧
    (∀ middle, isWithin (normalize dn) (normalize middle) = true →
      isWithin (normalize middle) (normalize base) = true →
        isWithin (normalize dn) (normalize base) = true) ∧
    (isWithin (normalize dn) (normalize base) = true →
      isWithin (normalize base) (normalize dn) = true → normalize dn = normalize base) ∧
    ∀ front, (normalize dn).toList = front ++ (normalize base).toList →
      (isWithin (normalize dn) (normalize base) = true ↔
        normalize base = "" ∨ AtComponent front) :=
  ⟨isWithin_iff_suffix, isWithin_self _, fun _ => isWithin_trans, isWithin_antisymm,
    fun _ => isWithin_append_iff⟩

end LdapService.Dn

import LdapService.Proofs.Dn.NormalForm

/-!
Names one level below another. The parent of a normalized name has the components of that
name without the first one. A name without components is its own parent: the empty string
stands for the root, and for the parent that the root does not have.
-/

namespace LdapService.Dn

def IsChild (dn base : String) : Prop :=
  ∃ first, components dn = first :: components base

theorem components_ofComponents {parts : List (List Char)}
    (normal : ∀ part ∈ parts, IsNormal part) : components (ofComponents parts) = parts := by
  by_cases none : parts = []
  · subst none
    decide
  · have commas (part : List Char) (mem : part ∈ parts) : ',' ∉ part := (normal part mem).comma
    rw [components, ofComponents, String.toList_ofList, List.splitOn_intercalate ',' commas none,
      List.filter_eq_self]
    intro part mem
    simpa using (normal part mem).filled

theorem components_normalize (dn : String) : components (normalize dn) = normalComponents dn :=
  components_ofComponents fun _ => isNormal_of_mem

theorem ofComponents_inj {first second : List (List Char)} (normal : ∀ part ∈ first, IsNormal part)
    (normal' : ∀ part ∈ second, IsNormal part) :
    ofComponents first = ofComponents second ↔ first = second := by
  constructor
  · intro same
    rw [← components_ofComponents normal, ← components_ofComponents normal', same]
  · exact congrArg ofComponents

theorem parent_ofComponents {parts : List (List Char)} (normal : ∀ part ∈ parts, IsNormal part) :
    parent (ofComponents parts) = ofComponents parts.tail := by
  cases parts with
  | nil => rfl
  | cons first rest =>
    have absent : ',' ∉ first := (normal first List.mem_cons_self).comma
    cases rest with
    | nil =>
      have alone : (ofComponents [first]).toList = first := by
        simp [ofComponents]
      rw [parent, alone, splitFirst?_eq_none_iff.2 absent]
      rfl
    | cons second rest =>
      have front : (ofComponents (first :: second :: rest)).toList =
          first ++ ',' :: (ofComponents (second :: rest)).toList := by
        simp [ofComponents, List.intercalate_cons_cons]
      rw [parent, front, splitFirst?_append absent]
      simp

/-- The parent of a name is the base, exactly if the name is a child of the base or both
are the root. -/
theorem parent_eq_iff {dn base : String} :
    parent (normalize dn) = normalize base ↔
      IsChild (normalize dn) (normalize base) ∨ normalize dn = "" ∧ normalize base = "" := by
  have normal (name : String) : ∀ part ∈ normalComponents name, IsNormal part :=
    fun _ => isNormal_of_mem
  have tail : ∀ part ∈ (normalComponents dn).tail, IsNormal part :=
    fun part mem => normal dn part (List.mem_of_mem_tail mem)
  have root (name : String) : normalize name = "" ↔ normalComponents name = [] :=
    ofComponents_inj (normal name) (List.forall_mem_nil _)
  rw [IsChild, components_normalize, components_normalize, root, root, normalize_eq, normalize_eq,
    parent_ofComponents (normal dn), ofComponents_inj tail (normal base)]
  cases normalComponents dn with
  | nil =>
    simp only [List.tail_nil, reduceCtorEq, exists_false, false_or, true_and]
    exact eq_comm
  | cons first rest => simp

theorem not_isChild_self (dn : String) : ¬IsChild dn dn := by
  rintro ⟨first, same⟩
  exact List.cons_ne_self _ _ same.symm

end LdapService.Dn

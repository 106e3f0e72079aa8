import LdapService.Attributes

/-!
What an attribute map holds once it has been filled. The values of a name are those that
were appended to it, in order, whatever other names were filled in between.
-/

namespace LdapService.Attributes

variable {pairs : List (String × List String)} {name other : String}

def lookup? (pairs : List (String × List String)) (name : String) : Option (List String) :=
  (pairs.find? fun pair => pair.1 == name).map (·.2)

def collect (pairs : List (String × List String)) (name : String) : List String :=
  (pairs.filter fun pair => pair.1 == name).flatMap (·.2)

theorem lookup?_cons_self (values : List String) :
    lookup? ((name, values) :: pairs) name = some values := by
  simp [lookup?]

theorem lookup?_cons_of_ne (different : name ≠ other) (values : List String) :
    lookup? ((name, values) :: pairs) other = lookup? pairs other := by
  simp [lookup?, different]

theorem lookup?_eq_none (absent : ∀ pair ∈ pairs, pair.1 ≠ name) : lookup? pairs name = none := by
  simpa [lookup?] using absent

theorem lookup?_alterPairs (ascending : pairs.Pairwise fun first second => first.1 < second.1)
    (change : List String → List String) :
    lookup? (alterPairs name change pairs) other =
      if name = other then some (change ((lookup? pairs name).getD [])) else lookup? pairs other := by
  induction pairs with
  | nil =>
    by_cases same : name = other
    · subst same
      rw [alterPairs, lookup?_cons_self, if_pos rfl]
      rfl
    · rw [alterPairs, lookup?_cons_of_ne same, if_neg same]
  | cons pair rest ih =>
    obtain ⟨below, sorted⟩ := List.pairwise_cons.1 ascending
    rw [alterPairs]
    split
    · next before =>
      have absent : ∀ later ∈ pair :: rest, later.1 ≠ name := by
        rintro later mem rfl
        rcases List.mem_cons.1 mem with rfl | mem
        · exact String.lt_irrefl _ before
        · exact String.lt_irrefl _ (String.lt_trans before (below later mem))
      by_cases same : name = other
      · subst same
        rw [lookup?_cons_self, if_pos rfl, lookup?_eq_none absent]
        rfl
      · rw [lookup?_cons_of_ne same, if_neg same]
    · split
      · next here =>
        obtain ⟨key, values⟩ := pair
        obtain rfl : key = name := here
        by_cases same : key = other
        · subst same
          rw [lookup?_cons_self, lookup?_cons_self, if_pos rfl]
          rfl
        · rw [lookup?_cons_of_ne same, lookup?_cons_of_ne same, if_neg same]
      · next elsewhere =>
        obtain ⟨key, values⟩ := pair
        rw [lookup?_cons_of_ne elsewhere]
        by_cases same : key = other
        · subst same
          rw [lookup?_cons_self, lookup?_cons_self, if_neg (Ne.symm elsewhere)]
        · rw [lookup?_cons_of_ne same, lookup?_cons_of_ne same, ih sorted]

theorem get?_append (attributes : Attributes) (values : List String) :
    (attributes.append name values).get? other =
      if name = other then some ((attributes.get? name).getD [] ++ values)
      else attributes.get? other :=
  lookup?_alterPairs attributes.ascending (· ++ values)

theorem get?_foldl_append (attributes : Attributes) (pairs : List (String × List String)) :
    (pairs.foldl (fun attributes pair => attributes.append pair.1 pair.2) attributes).get? name =
      if name ∈ pairs.map (·.1) then some ((attributes.get? name).getD [] ++ collect pairs name)
      else attributes.get? name := by
  induction pairs generalizing attributes with
  | nil => rw [List.foldl_nil, List.map_nil, if_neg List.not_mem_nil]
  | cons pair rest ih =>
    rw [List.foldl_cons, ih, get?_append]
    by_cases here : pair.1 = name
    · have collected : collect (pair :: rest) name = pair.2 ++ collect rest name := by
        simp [collect, here]
      rw [if_pos here, if_pos (show name ∈ (pair :: rest).map (·.1) by simp [here]), collected, here]
      by_cases again : name ∈ rest.map (·.1)
      · rw [if_pos again, Option.getD_some, List.append_assoc]
      · have alone : collect rest name = [] := by
          rw [collect, List.filter_eq_nil_iff.2, List.flatMap_nil]
          intro later mem same
          exact again (List.mem_map.2 ⟨later, mem, beq_iff_eq.1 same⟩)
        rw [if_neg again, alone, List.append_nil]
    · have collected : collect (pair :: rest) name = collect rest name := by
        simp [collect, here]
      have later : name ∈ (pair :: rest).map (·.1) ↔ name ∈ rest.map (·.1) := by
        simp [Ne.symm here]
      simp only [if_neg here, collected, later]

/-- A map made from pairs has the names that occur, each with all values given under it. -/
theorem get?_ofPairs (pairs : List (String × List String)) (name : String) :
    (ofPairs pairs).get? name =
      if name ∈ pairs.map (·.1) then some (collect pairs name) else none :=
  get?_foldl_append empty pairs

end LdapService.Attributes

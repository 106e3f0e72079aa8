import Mathlib.Data.List.Nodup

/-!
Lists of items with keys. A list is gone through with the keys that have come before, up to the
first item whose key is one of them; there is none exactly if all keys are different.
-/

namespace LdapService

variable {α β : Type} {key : α → String} {items front back rest : List α} {item : α}
  {earlier : List String}

def firstRepeated? (key : α → String) (earlier : List String) : List α → Option α
  | [] => none
  | item :: rest =>
      if key item ∈ earlier then some item else firstRepeated? key (key item :: earlier) rest

def IsFirstRepeated (key : α → String) (items : List α) (item : α) : Prop :=
  ∃ front back, items = front ++ item :: back ∧ (front.map key).Nodup ∧ key item ∈ front.map key

theorem firstRepeated?_append (distinct : (front.map key).Nodup)
    (fresh : ∀ other ∈ front, key other ∉ earlier) :
    firstRepeated? key earlier (front ++ rest) =
      firstRepeated? key ((front.map key).reverse ++ earlier) rest := by
  induction front generalizing earlier with
  | nil => rfl
  | cons first front ih =>
    obtain ⟨unknown, others⟩ := List.forall_mem_cons.1 fresh
    rw [List.map_cons, List.nodup_cons] at distinct
    have fresh' : ∀ other ∈ front, key other ∉ key first :: earlier := by
      intro other mem known
      rcases List.mem_cons.1 known with same | known
      · exact distinct.1 (same ▸ List.mem_map_of_mem mem)
      · exact others other mem known
    rw [List.cons_append, firstRepeated?, if_neg unknown, ih distinct.2 fresh', List.map_cons,
      List.reverse_cons, List.append_assoc]
    rfl

/-- Either all keys are new and different, or the items come apart at the one that is found. -/
theorem firstRepeated?_splits (key : α → String) (earlier : List String) (items : List α) :
    match firstRepeated? key earlier items with
    | none => (items.map key).Nodup ∧ ∀ item ∈ items, key item ∉ earlier
    | some item => ∃ front back, items = front ++ item :: back ∧ (front.map key).Nodup ∧
        (∀ other ∈ front, key other ∉ earlier) ∧ (key item ∈ earlier ∨ key item ∈ front.map key) := by
  induction items generalizing earlier with
  | nil => exact ⟨List.nodup_nil, List.forall_mem_nil _⟩
  | cons first rest ih =>
    have later := ih (key first :: earlier)
    rw [firstRepeated?]
    by_cases known : key first ∈ earlier
    · rw [if_pos known]
      exact ⟨[], rest, rfl, List.nodup_nil, List.forall_mem_nil _, .inl known⟩
    · rw [if_neg known]
      have apart {others : List α} (fresh : ∀ other ∈ others, key other ∉ key first :: earlier)
          (distinct : (others.map key).Nodup) : ((first :: others).map key).Nodup ∧
            ∀ other ∈ first :: others, key other ∉ earlier := by
        refine ⟨List.nodup_cons.2 ⟨?_, distinct⟩, List.forall_mem_cons.2 ⟨known, ?_⟩⟩
        · intro mem
          obtain ⟨other, mem, same⟩ := List.mem_map.1 mem
          exact fresh other mem (same ▸ List.mem_cons_self)
        · exact fun other mem known => fresh other mem (List.mem_cons_of_mem _ known)
      cases found : firstRepeated? key (key first :: earlier) rest with
      | none =>
        rw [found] at later
        exact apart later.2 later.1
      | some item =>
        rw [found] at later
        obtain ⟨front, back, rfl, distinct, fresh, known⟩ := later
        obtain ⟨distinct, fresh⟩ := apart fresh distinct
        refine ⟨first :: front, back, rfl, distinct, fresh, ?_⟩
        rw [List.mem_cons] at known
        rw [List.map_cons, List.mem_cons]
        rcases known with (same | known) | known
        · exact .inr (.inl same)
        · exact .inl known
        · exact .inr (.inr known)

theorem firstRepeated?_eq_some_iff :
    firstRepeated? key [] items = some item ↔ IsFirstRepeated key items item := by
  constructor
  · intro found
    have splits := firstRepeated?_splits key [] items
    rw [found] at splits
    obtain ⟨front, back, whole, distinct, -, known⟩ := splits
    exact ⟨front, back, whole, distinct, known.resolve_left List.not_mem_nil⟩
  · rintro ⟨front, back, rfl, distinct, known⟩
    have listed : key item ∈ (front.map key).reverse ++ [] := by
      rw [List.append_nil, List.mem_reverse]
      exact known
    rw [firstRepeated?_append distinct fun _ _ => List.not_mem_nil, firstRepeated?, if_pos listed]

theorem firstRepeated?_eq_none_iff :
    firstRepeated? key [] items = none ↔ (items.map key).Nodup := by
  constructor
  · intro none
    have splits := firstRepeated?_splits key [] items
    rw [none] at splits
    exact splits.1
  · intro distinct
    have passed := @firstRepeated?_append α key items [] [] distinct fun _ _ => List.not_mem_nil
    rwa [List.append_nil] at passed

theorem firstRepeated?_map (key : α → String) (f : β → α) (earlier : List String)
    (items : List β) :
    firstRepeated? key earlier (items.map f) =
      (firstRepeated? (fun item => key (f item)) earlier items).map f := by
  induction items generalizing earlier with
  | nil => rfl
  | cons first rest ih =>
    rw [List.map_cons, firstRepeated?, firstRepeated?, ih]
    split
    · rfl
    · rfl

end LdapService

import Mathlib.Data.List.Perm.Basic
import LdapService.Proofs.Attributes.Lookup

/-!
Maps that collect a listing in which names are repeated. Such a map has each name once, with the
values of all its occurrences one after the other; so each value is there as often as it was
given, under the name that it was given under. There is exactly one such map for every listing.
-/

namespace LdapService.Attributes

def labelled (pairs : List (String × List String)) : List (String × String) :=
  pairs.flatMap fun pair => pair.2.map (pair.1, ·)

/-- The map has the names of the listing and no others, and the values in their order. -/
structure Collects (attributes : Attributes) (pairs : List (String × List String)) : Prop where
  listed : ∀ name values, (name, values) ∈ attributes.pairs ↔
    name ∈ pairs.map (·.1) ∧ values = collect pairs name
  kept : (labelled attributes.pairs).Perm (labelled pairs)

variable {pairs : List (String × List String)}

theorem get?_eq_some_iff {attributes : Attributes} {name : String} {values : List String} :
    attributes.get? name = some values ↔ (name, values) ∈ attributes.pairs := by
  obtain ⟨pairs, ascending⟩ := attributes
  change lookup? pairs name = some values ↔ (name, values) ∈ pairs
  induction pairs with
  | nil => exact iff_of_false nofun List.not_mem_nil
  | cons pair rest ih =>
    obtain ⟨key, held⟩ := pair
    obtain ⟨below, sorted⟩ := List.pairwise_cons.1 ascending
    rw [List.mem_cons, Prod.mk.injEq]
    by_cases here : key = name
    · subst here
      have alone : (key, values) ∉ rest := fun mem =>
        String.lt_irrefl key (below (key, values) mem)
      rw [lookup?_cons_self, Option.some_inj]
      exact ⟨fun same => .inl ⟨rfl, same.symm⟩, fun h => (h.resolve_right alone).2.symm⟩
    · rw [lookup?_cons_of_ne here, ih sorted]
      exact (or_iff_right fun same => here same.1.symm).symm

theorem labelled_alterPairs (name : String) (values : List String) :
    (labelled (alterPairs name (· ++ values) pairs)).Perm
      (labelled pairs ++ values.map (name, ·)) := by
  induction pairs with
  | nil => simp [alterPairs, labelled]
  | cons pair rest ih =>
    rw [alterPairs]
    split
    · exact List.perm_append_comm
    · split
      · next here =>
        subst here
        simp only [labelled, List.flatMap_cons, List.map_append, List.append_assoc]
        exact (List.perm_append_comm).append_left _
      · simp only [labelled, List.flatMap_cons, List.append_assoc] at ih ⊢
        exact ih.append_left _

theorem labelled_foldl_append (attributes : Attributes) :
    (labelled (pairs.foldl (fun attributes pair => attributes.append pair.1 pair.2)
      attributes).pairs).Perm (labelled attributes.pairs ++ labelled pairs) := by
  induction pairs generalizing attributes with
  | nil => simp [labelled]
  | cons pair rest ih =>
    have added := @labelled_alterPairs attributes.pairs pair.1 pair.2
    rw [List.foldl_cons]
    refine (ih _).trans ((added.append_right _).trans ?_)
    rw [List.append_assoc]
    rfl

theorem ofPairs_collects (pairs : List (String × List String)) : (ofPairs pairs).Collects pairs where
  listed name values := by
    rw [← get?_eq_some_iff, get?_ofPairs]
    by_cases occurs : name ∈ pairs.map (·.1)
    · rw [if_pos occurs, Option.some_inj, and_iff_right occurs, eq_comm]
    · rw [if_neg occurs]
      exact iff_of_false nofun fun h => occurs h.1
  kept := labelled_foldl_append empty

theorem eq_of_mem_iff {first second : Attributes}
    (same : ∀ pair, pair ∈ first.pairs ↔ pair ∈ second.pairs) : first = second := by
  obtain ⟨pairs, ascending⟩ := first
  obtain ⟨others, ascending'⟩ := second
  have distinct {listing : List (String × List String)}
      (ascending : listing.Pairwise fun one other => one.1 < other.1) : listing.Nodup :=
    ascending.imp fun less => ne_of_apply_ne Prod.fst (String.ne_of_lt less)
  have permuted : pairs.Perm others :=
    (List.perm_ext_iff_of_nodup (distinct ascending) (distinct ascending')).2 same
  have listed : pairs = others := by
    refine permuted.eq_of_pairwise (fun one other _ _ less greater => ?_) ascending ascending'
    exact absurd (String.lt_trans less greater) (String.lt_irrefl _)
  subst listed
  rfl

theorem collects_iff {attributes : Attributes} :
    attributes.Collects pairs ↔ attributes = ofPairs pairs := by
  constructor
  · rintro ⟨listed, -⟩
    refine eq_of_mem_iff fun ⟨name, values⟩ => ?_
    rw [listed, (ofPairs_collects pairs).listed]
  · rintro rfl
    exact ofPairs_collects pairs

example : (ofPairs [("cn", ["a"]), ("sn", []), ("cn", ["b", "a"])]).pairs =
    [("cn", ["a", "b", "a"]), ("sn", [])] := by decide

end LdapService.Attributes

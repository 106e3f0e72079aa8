import LdapService.Proofs.Attributes.Lookup
import LdapService.Proofs.Filter.NegationNormal

/-!
Attribute names in whatever case their letters are. An entry is searched for the first name
that is the same but for the case of ASCII letters; a plain map is asked for exactly one key.
Where no attribute has a second spelling, a filter cannot tell the entry from the map of
small names, if its own names are made small too. Which way a name is spelled in the filter
never matters.
-/

namespace LdapService

open Text (asciiLower sameName sameName_iff)

namespace Attributes

def lowered (attributes : Attributes) : Attributes :=
  .ofPairs (attributes.pairs.map fun pair => (asciiLower pair.1, pair.2))

def firstUnder? (attributes : Attributes) (small : String) : Option (List String) :=
  (attributes.pairs.find? fun pair => asciiLower pair.1 == small).map (·.2)

/-- No two attributes have the same name but for the case of ASCII letters. -/
def HasOneSpelling (attributes : Attributes) : Prop :=
  attributes.pairs.Pairwise fun first second => sameName first.1 second.1 = false

instance (attributes : Attributes) : Decidable attributes.HasOneSpelling :=
  inferInstanceAs (Decidable (List.Pairwise _ _))

variable {attributes : Attributes}

theorem HasOneSpelling.filter_eq (one : attributes.HasOneSpelling) (name : String) :
    attributes.pairs.filter (fun pair => sameName pair.1 name) =
      (attributes.pairs.find? fun pair => sameName pair.1 name).toList := by
  have apart : (attributes.pairs.filter fun pair => sameName pair.1 name).Pairwise
      fun first second => sameName first.1 second.1 = false :=
    one.sublist List.filter_sublist
  have named : ∀ pair ∈ attributes.pairs.filter fun pair => sameName pair.1 name,
      asciiLower pair.1 = asciiLower name := fun pair mem =>
    sameName_iff.1 (List.mem_filter.1 mem).2
  rw [← List.head?_filter]
  generalize attributes.pairs.filter (fun pair => sameName pair.1 name) = found at apart named ⊢
  match found, apart, named with
  | [], _, _ => rfl
  | [_], _, _ => rfl
  | first :: second :: _, apart, named =>
    have different := List.rel_of_pairwise_cons apart List.mem_cons_self
    have same : sameName first.1 second.1 = true := by
      rw [sameName_iff, named first (by simp), named second (by simp)]
    rw [same] at different
    cases different

theorem getIgnoringCase?_eq_lowered (one : attributes.HasOneSpelling) (name : String) :
    attributes.getIgnoringCase? name = attributes.lowered.get? (asciiLower name) := by
  have alone := one.filter_eq name
  have collected : collect (attributes.pairs.map fun pair => (asciiLower pair.1, pair.2))
      (asciiLower name) = (attributes.pairs.filter fun pair => sameName pair.1 name).flatMap (·.2) := by
    rw [collect, List.filter_map, List.flatMap_map]
    rfl
  have listed : asciiLower name ∈
      (attributes.pairs.map fun pair => (asciiLower pair.1, pair.2)).map (·.1) ↔
        attributes.pairs.filter (fun pair => sameName pair.1 name) ≠ [] := by
    simp [List.filter_eq_nil_iff, sameName_iff]
  rw [lowered, get?_ofPairs, collected]
  simp only [listed, alone, getIgnoringCase?]
  cases attributes.pairs.find? fun pair => sameName pair.1 name <;> simp

end Attributes

def Assertion.mapAttr (change : String → String) (assertion : Assertion) : Assertion :=
  { assertion with attr := change assertion.attr }

def SubstringsAssertion.mapAttr (change : String → String) (assertion : SubstringsAssertion) :
    SubstringsAssertion :=
  { assertion with attr := change assertion.attr }

namespace Filter

open Matching (Registry)

mutual

def mapAttrs (change : String → String) : Filter → Filter
  | present attr => present (change attr)
  | always => always
  | never => never
  | undefined => undefined
  | equality assertion => equality (assertion.mapAttr change)
  | greaterOrEqual assertion => greaterOrEqual (assertion.mapAttr change)
  | lessOrEqual assertion => lessOrEqual (assertion.mapAttr change)
  | substrings assertion => substrings (assertion.mapAttr change)
  | and children => and (mapAttrsAll change children)
  | or children => or (mapAttrsAll change children)
  | not child => not (mapAttrs change child)
  | unknown tag => unknown tag

def mapAttrsAll (change : String → String) : List Filter → List Filter
  | [] => []
  | child :: rest => mapAttrs change child :: mapAttrsAll change rest

end

/-- The attribute names differ in the case of ASCII letters, and nothing else does. -/
def SameButCase (filter other : Filter) : Prop :=
  filter.mapAttrs asciiLower = other.mapAttrs asciiLower

/-- A filter with other names finds what the filter finds through the same change of names. -/
theorem evaluate_mapAttrs (rules : Registry) (values : Lookup) (change : String → String)
    (filter : Filter) :
    evaluate rules values (filter.mapAttrs change) = evaluate rules (values ∘ change) filter := by
  induction filter using leafInduction with
  | leaf filter leaf =>
    cases filter with
    | and | or | not => exact leaf.elim
    | _ => rfl
  | and children ih =>
    rw [mapAttrs, evaluate, evaluate]
    induction children with
    | nil => rfl
    | cons child rest later =>
      obtain ⟨first, others⟩ := List.forall_mem_cons.1 ih
      rw [mapAttrsAll, evaluateAll_cons, evaluateAll_cons, first, later others]
  | or children ih =>
    rw [mapAttrs, evaluate, evaluate]
    induction children with
    | nil => rfl
    | cons child rest later =>
      obtain ⟨first, others⟩ := List.forall_mem_cons.1 ih
      rw [mapAttrsAll, evaluateAny_cons, evaluateAny_cons, first, later others]
  | not child ih => rw [mapAttrs, evaluate, evaluate, ih]

theorem SameButCase.evaluate_eq {filter other : Filter} (same : filter.SameButCase other)
    (rules : Registry) (entry : Entry) :
    evaluate rules entry.get? other = evaluate rules entry.get? filter := by
  -- what an entry has under a name depends on the small letters of the name alone
  have small : entry.get? = entry.attributes.firstUnder? ∘ asciiLower := rfl
  rw [small, ← evaluate_mapAttrs, ← evaluate_mapAttrs, same]

/-- For an entry without second spellings a filter has the same value, or the same error, as
the filter in small letters has for the plain map in small letters. And however the letters
of its attribute names are spelled, the outcome stays. -/
theorem evaluate_eq_lowered {entry : Entry} (one : entry.attributes.HasOneSpelling)
    (rules : Registry) (filter : Filter) :
    evaluate rules entry.get? filter =
        evaluate rules entry.attributes.lowered.get? (filter.mapAttrs asciiLower) ∧
      ∀ other, filter.SameButCase other →
        evaluate rules entry.get? other = evaluate rules entry.get? filter := by
  refine ⟨?_, fun other same => same.evaluate_eq rules entry⟩
  have found : entry.get? = entry.attributes.lowered.get? ∘ asciiLower :=
    funext (Attributes.getIgnoringCase?_eq_lowered one)
  rw [evaluate_mapAttrs, ← found]

/-- An assertion that fails, and behind it one under a rule that nobody knows. -/
theorem evaluate_eq_lowered_unknownRule :
    let entry : Entry := {
      dn := "uid=ann", attributes := .ofPairs [("objectClass", ["person"]), ("CN", ["Ann"])] }
    let filter : Filter := .not (.or [
      .equality { attr := "Cn", value := "Bob" },
      .greaterOrEqual { attr := "OBJECTCLASS", rule := some "soundsLike", value := "person" }])
    let small : Filter := .not (.or [
      .equality { attr := "cn", value := "Bob" },
      .greaterOrEqual { attr := "objectclass", rule := some "soundsLike", value := "person" }])
    entry.attributes.HasOneSpelling ∧ filter.SameButCase small ∧
      entry.attributes.lowered.pairs = [("cn", ["Ann"]), ("objectclass", ["person"])] ∧
      evaluate .standard entry.get? filter =
        .error (.operationsError "Unknown matching rule: soundsLike") ∧
      evaluate .standard entry.attributes.lowered.get? small =
        .error (.operationsError "Unknown matching rule: soundsLike") ∧
      evaluate .standard entry.get? small = evaluate .standard entry.get? filter := by
  intro entry filter small
  have one : entry.attributes.HasOneSpelling := by decide +kernel
  have lowered : filter.mapAttrs asciiLower = small := by
    have cn : asciiLower "Cn" = "cn" := by decide +kernel
    have objectClass : asciiLower "OBJECTCLASS" = "objectclass" := by decide +kernel
    simp only [filter, small, mapAttrs, mapAttrsAll, Assertion.mapAttr, cn, objectClass]
  have same : filter.SameButCase small := by
    have cn : asciiLower "cn" = "cn" := by decide +kernel
    have objectClass : asciiLower "objectclass" = "objectclass" := by decide +kernel
    rw [SameButCase, lowered]
    simp only [small, mapAttrs, mapAttrsAll, Assertion.mapAttr, cn, objectClass]
  have outcome : evaluate .standard entry.get? filter =
      .error (.operationsError "Unknown matching rule: soundsLike") := by decide +kernel
  obtain ⟨plain, spelled⟩ := evaluate_eq_lowered one .standard filter
  refine ⟨one, same, by decide +kernel, outcome, ?_, spelled small same⟩
  rw [← lowered, ← plain, outcome]

end Filter

end LdapService

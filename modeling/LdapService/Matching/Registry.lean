import LdapService.Matching.Rule

/-!
Registries of matching rules. A rule is found by its name or its object
identifier, and both kinds of key share one space: no key stands for two
rules, nor twice for one.
-/

namespace LdapService.Matching

inductive Conflict where
  | duplicateName (name : String)
  | duplicateOid (oid : String)
  deriving DecidableEq, Repr

def Conflict.message : Conflict → String
  | duplicateName name => s!"Duplicate matching rule name: {name}"
  | duplicateOid oid => s!"Duplicate matching rule OID: {oid}"

def Rule.keys (rule : Rule) : List String := [rule.name, rule.oid]

structure Registry where
  rules : List Rule
  distinct : (rules.flatMap Rule.keys).Nodup

namespace Registry

def conflict? (earlier : List String) : List Rule → Option Conflict
  | [] => none
  | rule :: rest =>
      if rule.name ∈ earlier then some (.duplicateName rule.name)
      else if rule.oid = rule.name ∨ rule.oid ∈ earlier then some (.duplicateOid rule.oid)
      else conflict? (rule.oid :: rule.name :: earlier) rest

theorem distinct_of_conflict? {earlier : List String} {rules : List Rule}
    (h : conflict? earlier rules = none) :
    (rules.flatMap Rule.keys).Nodup ∧ ∀ key ∈ rules.flatMap Rule.keys, key ∉ earlier := by
  induction rules generalizing earlier with
  | nil => simp
  | cons rule rest ih =>
    simp only [conflict?] at h
    split at h
    · cases h
    · next name =>
      split at h
      · cases h
      · next oid =>
        obtain ⟨nodup, fresh⟩ := ih h
        simp only [not_or] at oid
        simp only [List.mem_cons, not_or] at fresh
        refine ⟨?_, ?_⟩
        · simp only [List.flatMap_cons, Rule.keys, List.cons_append, List.nil_append,
            List.nodup_cons, List.mem_cons, not_or]
          exact ⟨⟨fun same => oid.1 same.symm, fun mem => (fresh _ mem).2.1 rfl⟩,
            fun mem => (fresh _ mem).1 rfl, nodup⟩
        · intro key mem
          simp only [List.flatMap_cons, Rule.keys, List.cons_append, List.nil_append,
            List.mem_cons] at mem
          rcases mem with rfl | rfl | mem
          · exact name
          · exact oid.2
          · exact (fresh _ mem).2.2

def build (rules : List Rule) : Except Conflict Registry :=
  match h : conflict? [] rules with
  | none => .ok ⟨rules, (distinct_of_conflict? h).1⟩
  | some conflict => .error conflict

/-- Keys are compared exactly, case included. -/
def find? (registry : Registry) (key : String) : Option Rule :=
  registry.rules.find? fun rule => rule.name == key || rule.oid == key

end Registry

def octetStringMatch : Rule := ⟨"octetStringMatch", "2.5.13.17", .exact⟩

def standardRules : List Rule := [
  octetStringMatch,
  ⟨"octetStringOrderingMatch", "2.5.13.18", .exact⟩,
  ⟨"caseIgnoreMatch", "2.5.13.2", .caseFold⟩,
  ⟨"caseIgnoreOrderingMatch", "2.5.13.3", .caseFold⟩,
  ⟨"caseIgnoreSubstringsMatch", "2.5.13.4", .caseFold⟩,
  ⟨"caseExactMatch", "2.5.13.5", .exact⟩,
  ⟨"caseExactOrderingMatch", "2.5.13.6", .exact⟩,
  ⟨"caseExactSubstringsMatch", "2.5.13.7", .exact⟩,
  ⟨"numericStringMatch", "2.5.13.8", .removeSpaces⟩,
  ⟨"numericStringOrderingMatch", "2.5.13.9", .removeSpaces⟩,
  ⟨"numericStringSubstringsMatch", "2.5.13.10", .removeSpaces⟩,
  ⟨"caseExactIA5Match", "1.3.6.1.4.1.1466.109.114.1", .exact⟩,
  ⟨"caseIgnoreIA5Match", "1.3.6.1.4.1.1466.109.114.2", .asciiCaseFold⟩,
  ⟨"caseIgnoreIA5SubstringsMatch", "1.3.6.1.4.1.1466.109.114.3", .asciiCaseFold⟩]

theorem standardRules_distinct : (standardRules.flatMap Rule.keys).Nodup := by
  decide +kernel

namespace Registry

def standard : Registry := ⟨standardRules, standardRules_distinct⟩

/-- The rule of an assertion that names none. A registry may bind its name
to another rule. -/
def default (registry : Registry) : Rule :=
  (registry.find? octetStringMatch.name).getD octetStringMatch

end Registry

end LdapService.Matching

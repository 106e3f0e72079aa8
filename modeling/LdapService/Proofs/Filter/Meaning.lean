import Mathlib.Data.List.Perm.Basic
import Mathlib.Data.String.Basic
import Mathlib.Logic.Relation
import Mathlib.Order.Hom.Basic
import LdapService.Filter.Evaluate

/-!
What a filter means, however it is evaluated. Truth values are ordered, with
`undefined` between the other two: a conjunction is the least of its children, a
disjunction the greatest, and a negation turns the order around. Evaluation walks
along the children and stops early; still it finds this meaning wherever it can
evaluate at all, so the order of children does not matter.
-/

namespace LdapService

namespace Truth

def rank : Truth → Nat
  | fails => 0
  | undefined => 1
  | holds => 2

theorem rank_injective : Function.Injective rank := by
  intro first second same
  cases first <;> cases second <;> first | rfl | cases same

instance : LinearOrder Truth := LinearOrder.lift' rank rank_injective

instance : BoundedOrder Truth where
  top := holds
  le_top value := by cases value <;> decide
  bot := fails
  bot_le value := by cases value <;> decide

theorem negate_negate (value : Truth) : value.negate.negate = value := by
  cases value <;> rfl

def negation : Truth ≃o Truthᵒᵈ where
  toFun value := OrderDual.toDual value.negate
  invFun value := (OrderDual.ofDual value).negate
  left_inv := negate_negate
  right_inv := negate_negate
  map_rel_iff' {first second} := by cases first <;> cases second <;> decide

end Truth

def Matching.Registry.named? (rules : Registry) : Option String → Option Rule
  | none => some rules.default
  | some name => rules.find? name

namespace Filter

open Matching (Registry Rule)

/-- Nowhere in the filter is a choice that the service does not understand, nor a rule
that the registry does not have. -/
inductive IsKnown (rules : Registry) : Filter → Prop
  | present (attr : String) : IsKnown rules (present attr)
  | always : IsKnown rules always
  | never : IsKnown rules never
  | undefined : IsKnown rules undefined
  | equality {assertion : Assertion} (rule : (rules.named? assertion.rule).isSome) :
      IsKnown rules (equality assertion)
  | greaterOrEqual {assertion : Assertion} (rule : (rules.named? assertion.rule).isSome) :
      IsKnown rules (greaterOrEqual assertion)
  | lessOrEqual {assertion : Assertion} (rule : (rules.named? assertion.rule).isSome) :
      IsKnown rules (lessOrEqual assertion)
  | substrings {assertion : SubstringsAssertion} (rule : (rules.named? assertion.rule).isSome) :
      IsKnown rules (substrings assertion)
  | and {children : List Filter} (all : ∀ child ∈ children, IsKnown rules child) :
      IsKnown rules (and children)
  | or {children : List Filter} (all : ∀ child ∈ children, IsKnown rules child) :
      IsKnown rules (or children)
  | not {child : Filter} (known : IsKnown rules child) : IsKnown rules (not child)

section Meaning

variable (rules : Registry) (values : Lookup)

def SomeStored (attr : String) (name : Option String) (accepts : Rule → String → Prop) : Prop :=
  ∃ rule ∈ rules.named? name, ∃ stored ∈ values attr, ∃ value ∈ stored, accepts rule value

instance (attr : String) (name : Option String) (accepts : Rule → String → Prop)
    [∀ rule, DecidablePred (accepts rule)] :
    Decidable (SomeStored rules values attr name accepts) :=
  inferInstanceAs (Decidable (∃ rule ∈ rules.named? name, ∃ stored ∈ values attr,
    ∃ value ∈ stored, accepts rule value))

def meaning : Filter → Truth
  | present attr => .ofBool (values attr).isSome
  | always => ⊤
  | never => ⊥
  | undefined | unknown _ => .undefined
  | equality assertion =>
      .ofBool (decide (SomeStored rules values assertion.attr assertion.rule
        fun rule value => rule.prepare value = rule.prepare assertion.value))
  | greaterOrEqual assertion =>
      .ofBool (decide (SomeStored rules values assertion.attr assertion.rule
        fun rule value => rule.prepare assertion.value ≤ rule.prepare value))
  | lessOrEqual assertion =>
      .ofBool (decide (SomeStored rules values assertion.attr assertion.rule
        fun rule value => rule.prepare value ≤ rule.prepare assertion.value))
  | substrings assertion =>
      .ofBool (decide (SomeStored rules values assertion.attr assertion.rule
        fun rule value => rule.substrings value assertion.initial assertion.any assertion.final))
  | and children => (children.map meaning).foldr min ⊤
  | or children => (children.map meaning).foldr max ⊥
  | not child => OrderDual.ofDual (Truth.negation (meaning child))

end Meaning

/-- Children of one conjunction or disjunction, at any depth, in another order. -/
inductive Reorders : Filter → Filter → Prop
  | and {children children' : List Filter} (same : children.Perm children') :
      Reorders (and children) (and children')
  | or {children children' : List Filter} (same : children.Perm children') :
      Reorders (or children) (or children')
  | inAnd (before after : List Filter) {child child' : Filter} (within : Reorders child child') :
      Reorders (and (before ++ child :: after)) (and (before ++ child' :: after))
  | inOr (before after : List Filter) {child child' : Filter} (within : Reorders child child') :
      Reorders (or (before ++ child :: after)) (or (before ++ child' :: after))
  | inNot {child child' : Filter} (within : Reorders child child') :
      Reorders (not child) (not child')

variable {rules : Registry} {values : Lookup} {filter other : Filter}

theorem Reorders.meaning_eq (h : Reorders filter other) :
    meaning rules values filter = meaning rules values other := by
  induction h with
  | and same =>
    rw [meaning, meaning]
    exact (same.map _).foldr_eq ⊤
  | or same =>
    rw [meaning, meaning]
    exact (same.map _).foldr_eq ⊥
  | inAnd before after within ih | inOr before after within ih =>
    rw [meaning, meaning, List.map_append, List.map_append, List.map_cons, List.map_cons, ih]
  | inNot within ih => rw [meaning, meaning, ih]

theorem Reorders.isKnown (h : Reorders filter other) (known : filter.IsKnown rules) :
    other.IsKnown rules := by
  -- a child that takes another's place is known, and the others stay
  have replaced {before after : List Filter} {child child' : Filter}
      (all : ∀ one ∈ before ++ child :: after, one.IsKnown rules) (known : child'.IsKnown rules) :
      ∀ one ∈ before ++ child' :: after, one.IsKnown rules := by
    intro one mem
    rcases List.mem_append.1 mem with early | late
    · exact all one (List.mem_append_left _ early)
    · rcases List.mem_cons.1 late with rfl | late
      · exact known
      · exact all one (List.mem_append_right _ (List.mem_cons_of_mem _ late))
  induction h with
  | and same =>
    cases known with
    | and all => exact .and fun child mem => all child (same.mem_iff.2 mem)
  | or same =>
    cases known with
    | or all => exact .or fun child mem => all child (same.mem_iff.2 mem)
  | inAnd before after within ih =>
    cases known with
    | and all => exact .and (replaced all (ih (all _ (by simp))))
  | inOr before after within ih =>
    cases known with
    | or all => exact .or (replaced all (ih (all _ (by simp))))
  | inNot within ih =>
    cases known with
    | not known => exact .not (ih known)

theorem someValue_eq {attr : String} {name : Option String} {rule : Rule} {test : String → Bool}
    {accepts : Rule → String → Prop} [∀ rule, DecidablePred (accepts rule)]
    (found : rules.named? name = some rule)
    (same : ∀ value, test value = true ↔ accepts rule value) :
    someValue values attr test = .ofBool (decide (SomeStored rules values attr name accepts)) := by
  have stored : ((values attr).getD []).any test =
      decide (SomeStored rules values attr name accepts) := by
    rw [Bool.eq_iff_iff, decide_eq_true_iff, List.any_eq_true, SomeStored, found]
    cases values attr with
    | none => simp
    | some stored => simp [same]
  rw [someValue, stored]

theorem ruleNamed_eq {name : Option String} {rule : Rule} (found : rules.named? name = some rule) :
    ruleNamed rules name = .ok rule := by
  cases name with
  | none =>
    cases found
    rfl
  | some name =>
    have found : rules.find? name = some rule := found
    rw [ruleNamed, found]

theorem evaluateAssertion_eq {assertion : Assertion} {test : Rule → String → String → Bool}
    {accepts : Rule → String → Prop} [∀ rule, DecidablePred (accepts rule)]
    (known : (rules.named? assertion.rule).isSome)
    (same : ∀ rule value, test rule value assertion.value = true ↔ accepts rule value) :
    evaluateAssertion rules values assertion test =
      .ok (.ofBool (decide (SomeStored rules values assertion.attr assertion.rule accepts))) := by
  obtain ⟨rule, found⟩ := Option.isSome_iff_exists.1 known
  rw [evaluateAssertion, ruleNamed_eq found, ← someValue_eq found (same rule)]
  rfl

theorem evaluateSubstrings_eq {assertion : SubstringsAssertion}
    (known : (rules.named? assertion.rule).isSome) :
    evaluateSubstrings rules values assertion =
      .ok (.ofBool (decide (SomeStored rules values assertion.attr assertion.rule fun rule value =>
        rule.substrings value assertion.initial assertion.any assertion.final))) := by
  obtain ⟨rule, found⟩ := Option.isSome_iff_exists.1 known
  rw [evaluateSubstrings, ruleNamed_eq found, ← someValue_eq found fun value => Iff.rfl]
  rfl

/-- To stop at the first child that fails is to take the least of all. -/
theorem evaluateAll_eq {children : List Filter} {value : Filter → Truth}
    (each : ∀ child ∈ children, evaluate rules values child = .ok (value child)) :
    evaluateAll rules values children = .ok ((children.map value).foldr min ⊤) := by
  induction children with
  | nil => rfl
  | cons child rest ih =>
    obtain ⟨first, others⟩ := List.forall_mem_cons.1 each
    rw [evaluateAll, first, ih others, List.map_cons, List.foldr_cons]
    generalize (rest.map value).foldr min ⊤ = least
    cases value child <;> cases least <;> rfl

theorem evaluateAny_eq {children : List Filter} {value : Filter → Truth}
    (each : ∀ child ∈ children, evaluate rules values child = .ok (value child)) :
    evaluateAny rules values children = .ok ((children.map value).foldr max ⊥) := by
  induction children with
  | nil => rfl
  | cons child rest ih =>
    obtain ⟨first, others⟩ := List.forall_mem_cons.1 each
    rw [evaluateAny, first, ih others, List.map_cons, List.foldr_cons]
    generalize (rest.map value).foldr max ⊥ = greatest
    cases value child <;> cases greatest <;> rfl

theorem IsKnown.evaluate_eq (known : filter.IsKnown rules) (values : Lookup) :
    evaluate rules values filter = .ok (meaning rules values filter) := by
  induction known with
  | present | undefined => rw [evaluate, meaning]
  | always | never =>
    rw [evaluate, meaning]
    rfl
  | equality rule =>
    rw [evaluate, meaning]
    exact evaluateAssertion_eq rule fun rule value => beq_iff_eq
  | greaterOrEqual rule =>
    rw [evaluate, meaning]
    refine evaluateAssertion_eq rule fun rule value => ?_
    rw [bne_iff_ne]
    exact compare_ge_iff_ge
  | lessOrEqual rule =>
    rw [evaluate, meaning]
    refine evaluateAssertion_eq rule fun rule value => ?_
    rw [bne_iff_ne]
    exact compare_le_iff_le
  | substrings rule =>
    rw [evaluate, meaning]
    exact evaluateSubstrings_eq rule
  | and all ih =>
    rw [evaluate, meaning]
    exact evaluateAll_eq ih
  | or all ih =>
    rw [evaluate, meaning]
    exact evaluateAny_eq ih
  | not known ih =>
    rw [evaluate, meaning, ih]
    rfl

/-- A filter that can be evaluated has its meaning as its value, and so has every filter
that differs from it in the order of children alone. -/
theorem evaluate_eq_meaning (known : filter.IsKnown rules) (values : Lookup) :
    evaluate rules values filter = .ok (meaning rules values filter) ∧
      ∀ other, Relation.ReflTransGen Reorders filter other →
        evaluate rules values other = evaluate rules values filter := by
  refine ⟨known.evaluate_eq values, fun other reordered => ?_⟩
  have same : other.IsKnown rules ∧ meaning rules values other = meaning rules values filter := by
    induction reordered with
    | refl => exact ⟨known, rfl⟩
    | tail _ last ih =>
      obtain ⟨known, same⟩ := ih
      exact ⟨last.isKnown known, last.meaning_eq.symm.trans same⟩
  rw [same.1.evaluate_eq values, same.2, known.evaluate_eq values]

/-- A missing attribute under a negation, a rule by its identifier, and an undefined child
that ends up last. -/
theorem evaluate_eq_meaning_sample :
    let values : Lookup := fun attr => if attr = "cn" then some ["Ann"] else none
    let absent : Filter := .not (.equality ⟨"sn", some "caseIgnoreMatch", "Ann"⟩)
    let either : Filter := .or [.never, .equality ⟨"cn", some "2.5.13.2", "ANN"⟩]
    IsKnown .standard (.and [.undefined, absent, either]) ∧
      meaning .standard values (.and [.undefined, absent, either]) = .undefined ∧
      evaluate .standard values (.and [absent, either, .undefined]) = .ok .undefined := by
  intro values absent either
  have known : IsKnown .standard (.and [.undefined, absent, either]) := by
    refine .and ?_
    simp only [List.forall_mem_cons]
    refine ⟨.undefined, .not (.equality (by decide +kernel)), .or ?_, List.forall_mem_nil _⟩
    simp only [List.forall_mem_cons]
    exact ⟨.never, .equality (by decide +kernel), List.forall_mem_nil _⟩
  have evaluated : evaluate .standard values (.and [.undefined, absent, either]) =
      .ok .undefined := by decide +kernel
  have moved : List.Perm [.undefined, absent, either] [absent, either, .undefined] :=
    (List.perm_append_singleton _ _).symm
  obtain ⟨value, reordered⟩ := evaluate_eq_meaning known values
  rw [evaluated] at value
  refine ⟨known, (Except.ok.inj value).symm, ?_⟩
  rw [reordered _ (.single (.and moved)), evaluated]

end Filter

end LdapService

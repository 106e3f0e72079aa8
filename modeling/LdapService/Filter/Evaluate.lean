import LdapService.Filter.Basic
import LdapService.Failure
import LdapService.Matching.Registry

/-!
Three-valued evaluation. An attribute that is not there makes its assertion
fail; `undefined` comes only from filters that are undefined themselves. A
conjunction stops at the first child that fails and a disjunction at the first
that holds, so a child behind it cannot raise an error.
-/

namespace LdapService

inductive Truth where
  | fails
  | undefined
  | holds
  deriving DecidableEq, Repr, Inhabited

namespace Truth

def ofBool (value : Bool) : Truth :=
  if value then holds else fails

def negate : Truth → Truth
  | holds => fails
  | fails => holds
  | undefined => undefined

end Truth

namespace Filter

open Matching (Registry Rule)

abbrev Lookup := String → Option (List String)

def someValue (values : Lookup) (attr : String) (test : String → Bool) : Truth :=
  .ofBool (((values attr).getD []).any test)

def ruleNamed (rules : Registry) : Option String → Except Failure Rule
  | none => .ok rules.default
  | some name =>
      match rules.find? name with
      | some rule => .ok rule
      | none => .error (.operationsError s!"Unknown matching rule: {name}")

def evaluateAssertion (rules : Registry) (values : Lookup) (assertion : Assertion)
    (test : Rule → String → String → Bool) : Except Failure Truth := do
  let rule ← ruleNamed rules assertion.rule
  pure (someValue values assertion.attr fun value => test rule value assertion.value)

def evaluateSubstrings (rules : Registry) (values : Lookup) (assertion : SubstringsAssertion) :
    Except Failure Truth := do
  let rule ← ruleNamed rules assertion.rule
  pure (someValue values assertion.attr fun value =>
    rule.substrings value assertion.initial assertion.any assertion.final)

mutual

def evaluate (rules : Registry) (values : Lookup) : Filter → Except Failure Truth
  | present attr => .ok (.ofBool (values attr).isSome)
  | always => .ok .holds
  | never => .ok .fails
  | undefined => .ok .undefined
  | equality assertion => evaluateAssertion rules values assertion Rule.equals
  | greaterOrEqual assertion =>
      evaluateAssertion rules values assertion fun rule stored asserted =>
        rule.compare stored asserted != .lt
  | lessOrEqual assertion =>
      evaluateAssertion rules values assertion fun rule stored asserted =>
        rule.compare stored asserted != .gt
  | substrings assertion => evaluateSubstrings rules values assertion
  | and children => evaluateAll rules values children
  | or children => evaluateAny rules values children
  | not child => (evaluate rules values child).map Truth.negate
  | unknown tag => .error (.operationsError s!"Unknown filter type: {tag}")

def evaluateAll (rules : Registry) (values : Lookup) : List Filter → Except Failure Truth
  | [] => .ok .holds
  | child :: rest => do
      match ← evaluate rules values child with
      | .fails => pure .fails
      | .holds => evaluateAll rules values rest
      | .undefined =>
          match ← evaluateAll rules values rest with
          | .fails => pure .fails
          | _ => pure .undefined

def evaluateAny (rules : Registry) (values : Lookup) : List Filter → Except Failure Truth
  | [] => .ok .fails
  | child :: rest => do
      match ← evaluate rules values child with
      | .holds => pure .holds
      | .fails => evaluateAny rules values rest
      | .undefined =>
          match ← evaluateAny rules values rest with
          | .holds => pure .holds
          | _ => pure .undefined

end

end Filter

end LdapService

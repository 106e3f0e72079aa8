/-!
Search filters as trees, and their string form. The form is for people to
read: it escapes nothing.
-/

namespace LdapService

/-- `attr op value`, under a named matching rule if there is one. -/
structure Assertion where
  attr : String
  rule : Option String := none
  value : String
  deriving DecidableEq, Repr, Inhabited

structure SubstringsAssertion where
  attr : String
  rule : Option String := none
  initial : Option String := none
  any : List String := []
  final : Option String := none
  deriving DecidableEq, Repr, Inhabited

inductive Filter where
  | present (attr : String)
  | always
  | never
  | undefined
  | equality (assertion : Assertion)
  | greaterOrEqual (assertion : Assertion)
  | lessOrEqual (assertion : Assertion)
  | substrings (assertion : SubstringsAssertion)
  | and (children : List Filter)
  | or (children : List Filter)
  | not (child : Filter)
  /-- A choice that the service does not understand, by its tag. -/
  | unknown (tag : String)
  deriving Inhabited

namespace Assertion

def render (assertion : Assertion) (operator : String) : String :=
  match assertion.rule with
  | some rule => s!"({assertion.attr}:{rule}:{operator}{assertion.value})"
  | none => s!"({assertion.attr}{operator}{assertion.value})"

end Assertion

namespace SubstringsAssertion

def render (assertion : SubstringsAssertion) : String :=
  let rule := match assertion.rule with
    | some rule => s!":{rule}:"
    | none => ""
  let initial := assertion.initial.getD ""
  let any := String.join (assertion.any.map fun segment => segment ++ "*")
  let final := assertion.final.getD ""
  s!"({assertion.attr}{rule}={initial}*{any}{final})"

end SubstringsAssertion

namespace Filter

mutual

def render : Filter → String
  | present attr => s!"({attr}=*)"
  | always => "(&)"
  | never => "(|)"
  | undefined => "(?undefined)"
  | equality assertion => assertion.render "="
  | greaterOrEqual assertion => assertion.render ">="
  | lessOrEqual assertion => assertion.render "<="
  | substrings assertion => assertion.render
  | and children => s!"(&{renderAll children})"
  | or children => s!"(|{renderAll children})"
  | not child => s!"(!{render child})"
  | unknown tag => s!"(?{tag})"

def renderAll : List Filter → String
  | [] => ""
  | child :: rest => render child ++ renderAll rest

end

end Filter

end LdapService

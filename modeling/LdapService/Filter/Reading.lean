import LdapService.Filter.Basic
import LdapService.Message.Fault

/-!
Filters from their elements. Nesting is bounded, so that no message can make a
reading go deeper than the bound, whatever it holds.
-/

namespace LdapService

open Ber

namespace Assertion

def ofValue (value : Octets) : Except Ber.Error Assertion :=
  Reader.run value do
    let attr ← Reader.text Tag.octetString
    let value ← Reader.text Tag.octetString
    Reader.finish
    return { attr, value }

end Assertion

namespace SubstringsAssertion

def addSegment (assertion : SubstringsAssertion) (element : Element) :
    Except Fault SubstringsAssertion := do
  let segment ← Reader.textOf element.value
  if element.tag = Tag.Substring.initial ∧ assertion.initial = none ∧ assertion.any = []
      ∧ assertion.final = none then
    return { assertion with initial := some segment }
  else if element.tag = Tag.Substring.any ∧ assertion.final = none then
    return { assertion with any := assertion.any ++ [segment] }
  else if element.tag = Tag.Substring.final ∧ assertion.final = none then
    return { assertion with final := some segment }
  else reject (.substringOutOfOrder element.tag)

def ofValue (value : Octets) : Except Fault SubstringsAssertion := do
  let (attr, segments) ← Reader.run (ε := Ber.Error) value do
    let attr ← Reader.text Tag.octetString
    let segments ← Reader.expect Tag.sequence
    Reader.finish
    return (attr, segments)
  let assertion ← foldElements Fault.encoding addSegment { attr } segments
  if segments.isEmpty then reject .emptySubstrings
  return assertion

end SubstringsAssertion

namespace Filter

/-- An extensible match. Without an attribute its value cannot be known; the
flag for the attributes of the name is checked and not used. -/
def ofExtensible (value : Octets) : Except Fault Filter := do
  let (rule, attr, asserted) ← Reader.run (ε := Ber.Error) value do
    let rule ← Reader.optionalText Tag.Extensible.rule
    let attr ← Reader.optionalText Tag.Extensible.attr
    let asserted ← Reader.textOf (← Reader.expect Tag.Extensible.value)
    if let some flag ← Reader.optional Tag.Extensible.dnAttributes then
      if flag.length ≠ 1 then Reader.fail .invalidBoolean
    Reader.finish
    return (rule, attr, asserted)
  match attr, rule with
  | some attr, rule => return .equality { attr, rule, value := asserted }
  | none, some _ => return .undefined
  | none, none => reject .extensibleWithoutSubject

def maxDepth : Nat := 64

def ofElement : (levels : Nat) → Element → Except Fault Filter
  | 0, _ => reject .filterTooDeep
  | levels + 1, ⟨tag, value⟩ =>
      if tag = Tag.Filter.and then
        Filter.and <$> mapElements Fault.encoding (ofElement levels) value
      else if tag = Tag.Filter.or then
        Filter.or <$> mapElements Fault.encoding (ofElement levels) value
      else if tag = Tag.Filter.not then
        Reader.run value do
          let child ← ofElement levels (← Reader.element)
          unless ← Reader.atEnd do Reader.fail (.rejected .negationOfSeveral)
          return .not child
      else if tag = Tag.Filter.equality ∨ tag = Tag.Filter.approximate then do
        return .equality (← Assertion.ofValue value)
      else if tag = Tag.Filter.greaterOrEqual then do
        return .greaterOrEqual (← Assertion.ofValue value)
      else if tag = Tag.Filter.lessOrEqual then do
        return .lessOrEqual (← Assertion.ofValue value)
      else if tag = Tag.Filter.substrings then do
        return .substrings (← SubstringsAssertion.ofValue value)
      else if tag = Tag.Filter.present then do
        return .present (← Reader.textOf value)
      else if tag = Tag.Filter.extensible then ofExtensible value
      else return .unknown s!"0x{Octets.hex tag}"

end Filter

end LdapService

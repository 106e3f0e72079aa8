import LdapService.Matching.Rule
import LdapService.Text.Utf8

/-!
The search for segments along the octets of a value. A cursor stands behind all that has
been found, and the next segment is looked for from there. A text can be cut between two
characters only, so a cursor inside a character is an error of its own.
-/

namespace LdapService

namespace Text

def isContinuation (octet : UInt8) : Bool :=
  0x80 ≤ octet && octet < 0xc0

/-- The cursor stands at an end of the text, or before the first octet of a character. -/
def isBoundary (octets : Octets) (cursor : Nat) : Bool :=
  cursor == 0 ||
    match octets[cursor]? with
    | some octet => !isContinuation octet
    | none => cursor == octets.length

structure Misplaced where
  cursor : Nat
  deriving DecidableEq, Repr

def cutAt (octets : Octets) (cursor : Nat) : Except Misplaced Octets :=
  if isBoundary octets cursor then .ok (octets.drop cursor) else .error ⟨cursor⟩

def find? (segment : Octets) : Octets → Option Nat
  | [] => if segment.isPrefixOf [] then some 0 else none
  | octet :: rest =>
      if segment.isPrefixOf (octet :: rest) then some 0
      else (find? segment rest).map (· + 1)

end Text

namespace Matching.Rule

def scanAll (value : Octets) : List Octets → Nat → Except Text.Misplaced (Option Nat)
  | [], cursor => .ok (some cursor)
  | segment :: rest, cursor => do
      match Text.find? segment (← Text.cutAt value cursor) with
      | some position => scanAll value rest (cursor + position + segment.length)
      | none => return none

/-- The last segment must not reach into what was found before it. -/
def scanFrom (value : Octets) (segments : List Octets) (final : Option Octets) (start : Nat) :
    Except Text.Misplaced Bool := do
  match ← scanAll value segments start with
  | none => return false
  | some cursor =>
      match final with
      | none => return true
      | some final => return cursor + final.length ≤ value.length && final.isSuffixOf value

def scan (rule : Rule) (value : String) (initial : Option String) (any : List String)
    (final : Option String) : Except Text.Misplaced Bool :=
  let prepared (text : String) : Octets := Text.utf8 (rule.prepare text)
  let search := scanFrom (prepared value) (any.map prepared) (final.map prepared)
  match initial.map prepared with
  | none => search 0
  | some initial =>
      if initial.isPrefixOf (prepared value) then search initial.length else return false

end Matching.Rule

end LdapService

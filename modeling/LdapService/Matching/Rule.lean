import LdapService.Text.Ascii
import LdapService.Text.LowerCase
import LdapService.Text.Search

/-!
Matching rules. A rule prepares both sides and compares what is left exactly,
so equality, order and substrings agree with one another under every rule.
Order is by code point, which is the order of the UTF-8 octets.
-/

namespace LdapService.Matching

inductive Preparation where
  | exact
  | caseFold
  | asciiCaseFold
  | removeSpaces
  deriving DecidableEq, Repr

def Preparation.apply : Preparation → String → String
  | exact, value => value
  | caseFold, value => Text.lower value
  | asciiCaseFold, value => Text.asciiLower value
  | removeSpaces, value => String.ofList (value.toList.filter (· != ' '))

structure Rule where
  name : String
  oid : String
  preparation : Preparation
  deriving DecidableEq, Repr

namespace Rule

def prepare (rule : Rule) (value : String) : String :=
  rule.preparation.apply value

def equals (rule : Rule) (stored asserted : String) : Bool :=
  rule.prepare stored == rule.prepare asserted

def compare (rule : Rule) (stored asserted : String) : Ordering :=
  Ord.compare (rule.prepare stored) (rule.prepare asserted)

/-- What is left of a text behind the segments, each taken where it first
occurs after the one before it. -/
def afterAll? : List (List Char) → List Char → Option (List Char)
  | [], text => some text
  | segment :: segments, text => (Text.afterFirst? segment text).bind (afterAll? segments)

/-- The text has the segments in order and without overlap, `initial` at its
front and `final` at its end. The search never goes back: the leftmost place
leaves most of the text to the segments that follow. -/
def segmentsMatch (initial : List Char) (any : List (List Char)) (final text : List Char) : Bool :=
  match (Text.afterFront? initial text).bind (afterAll? any) with
  | some rest => final.isSuffixOf rest
  | none => false

def substrings (rule : Rule) (value : String) (initial : Option String) (any : List String)
    (final : Option String) : Bool :=
  let prepared (text : String) : List Char := (rule.prepare text).toList
  segmentsMatch ((initial.map prepared).getD []) (any.map prepared)
    ((final.map prepared).getD []) (prepared value)

end Rule

end LdapService.Matching

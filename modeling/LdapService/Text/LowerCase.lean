import LdapService.Text.LowerCaseTable
import LdapService.Text.CasedRanges

/-!
Full Unicode lower-casing without locale. Every character is mapped on its
own but two: U+0130 becomes two characters, and a capital sigma becomes the
final form at the end of a word.
-/

namespace LdapService.Text

def lowerChar (c : Char) : List Char :=
  if c = '\u0130' then ['i', '\u0307']
  else
    match lowerCaseRows.findSome? (·.image? c.toNat) with
    | some code => [Char.ofNat code]
    | none => [c]

/-- The nearest character that is not ignorable belongs to a word. -/
def touchesWord (text : List Char) : Bool :=
  match text.dropWhile isCaseIgnorable with
  | c :: _ => isCased c
  | [] => false

/-- Small form of a capital sigma between `before`, nearest first, and `after`. -/
def lowerSigma (before after : List Char) : Char :=
  if touchesWord before && !touchesWord after then '\u03c2' else '\u03c3'

def lowerAfter (before : List Char) : List Char → List Char
  | [] => []
  | c :: rest =>
      (if c = '\u03a3' then [lowerSigma before rest] else lowerChar c)
        ++ lowerAfter (c :: before) rest

def lower (text : String) : String :=
  String.ofList (lowerAfter [] text.toList)

end LdapService.Text

import LdapService.Text.Blank
import LdapService.Text.LowerCase

/-!
Distinguished names in a form in which equal names are equal strings. Types
are lowered in ASCII, values in all of Unicode, and blanks around `,` and `=`
are dropped. Escaped separators are not recognised: every comma separates.
-/

namespace LdapService.Dn

def splitFirst? (separator : Char) : List Char → Option (List Char × List Char)
  | [] => none
  | c :: rest =>
      if c = separator then some ([], rest)
      else (splitFirst? separator rest).map fun parts => (c :: parts.1, parts.2)

def lowerText (text : List Char) : List Char :=
  Text.lowerAfter [] text

def normalizeComponent (component : List Char) : List Char :=
  match splitFirst? '=' component with
  | some (type, value) =>
      (Text.trim type).map Char.toLower ++ '=' :: lowerText (Text.trim value)
  | none => lowerText (Text.trim component)

def components (dn : String) : List (List Char) :=
  (dn.toList.splitOn ',').filter (· ≠ [])

def ofComponents (components : List (List Char)) : String :=
  String.ofList ([','].intercalate components)

def normalize (dn : String) : String :=
  ofComponents (((dn.toList.splitOn ',').map normalizeComponent).filter (· ≠ []))

/-- The name one level up; empty for a single component. -/
def parent (dn : String) : String :=
  match splitFirst? ',' dn.toList with
  | some (_, rest) => String.ofList rest
  | none => ""

/-- A normalized name is the base or lies below it. -/
def isWithin (dn base : String) : Bool :=
  base.isEmpty || dn == base || (',' :: base.toList).isSuffixOf dn.toList

end LdapService.Dn

/-!
Case folding of the ASCII letters alone. Attribute names are compared this
way; every other character stands for itself.
-/

namespace LdapService.Text

def asciiLower (text : String) : String :=
  String.ofList (text.toList.map Char.toLower)

def sameName (first second : String) : Bool :=
  asciiLower first == asciiLower second

theorem sameName_iff {first second : String} :
    sameName first second = true ↔ asciiLower first = asciiLower second := by
  simp [sameName]

end LdapService.Text

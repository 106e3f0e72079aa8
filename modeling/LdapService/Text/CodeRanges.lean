/-!
Classes of characters given as closed ranges of code points.
-/

namespace LdapService.Text

def inRanges (ranges : List (Nat × Nat)) (c : Char) : Bool :=
  ranges.any fun range => range.1 ≤ c.toNat && c.toNat ≤ range.2

end LdapService.Text

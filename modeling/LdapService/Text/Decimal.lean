/-!
Decimal numerals as settings spell them: an optional plus sign and at least
one ASCII digit. Nothing else is a number, and a value past the bound is none.
-/

namespace LdapService.Text

def digits? : List Char → Option Nat
  | [] => none
  | text => if text.all Char.isDigit then
      some (text.foldl (fun value c => value * 10 + (c.toNat - 48)) 0)
    else none

def decimal? (bound : Nat) (text : List Char) : Option Nat :=
  let value := match text with
    | '+' :: rest => digits? rest
    | _ => digits? text
  value.filter (· < bound)

end LdapService.Text

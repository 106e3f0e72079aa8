import LdapService.Text.HiddenRanges

/-!
Text between quotes for the eyes of an operator. Whatever would not show, or
would be taken for a closing quote, is escaped.
-/

namespace LdapService.Text

def shortEscapes : List (Char × Char) :=
  [('\x00', '0'), ('\t', 't'), ('\r', 'r'), ('\n', 'n'), ('\\', '\\'), ('"', '"')]

def shown (c : Char) : List Char :=
  match shortEscapes.lookup c with
  | some letter => ['\\', letter]
  | none => if isHidden c then "\\u\x7b".toList ++ Nat.toDigits 16 c.toNat ++ ['}'] else [c]

def inspected (text : String) : String :=
  String.ofList (['"'] ++ text.toList.flatMap shown ++ ['"'])

end LdapService.Text

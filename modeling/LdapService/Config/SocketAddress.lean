/-!
Addresses a server can listen on: four decimal numbers, or groups of
hexadecimal digits in brackets, then a colon and a number. One run of zero
groups may be left out, the last two groups may be written as four decimal
numbers, and a scope may follow a percent sign.
-/

namespace LdapService.SocketAddress

abbrev Scan := StateT (List Char) Option

def char (expected : Char) : Scan Unit := fun
  | c :: rest => if c = expected then some ((), rest) else none
  | [] => none

def digit? (radix : Nat) (c : Char) : Option Nat :=
  let value :=
    if c.isDigit then c.toNat - 48
    else if 'a' ≤ c ∧ c ≤ 'f' then c.toNat - 87
    else if 'A' ≤ c ∧ c ≤ 'F' then c.toNat - 55
    else radix
  if value < radix then some value else none

structure Numeral where
  radix : Nat
  bound : Nat
  maxDigits : Option Nat := none
  leadingZeros : Bool := true

def byte : Numeral := { radix := 10, bound := 0x100, maxDigits := some 3, leadingZeros := false }

def group : Numeral := { radix := 16, bound := 0x10000, maxDigits := some 4 }

def portNumber : Numeral := { radix := 10, bound := 0x10000 }

def scope : Numeral := { radix := 10, bound := 0x100000000 }

def Numeral.scan (form : Numeral) : Scan Nat := fun text =>
  let isDigit c := (digit? form.radix c).isSome
  let digits := text.takeWhile isDigit
  let value := digits.foldl (fun value c => value * form.radix + (digit? form.radix c).getD 0) 0
  let tooLong := form.maxDigits.any (· < digits.length)
  let padded := !form.leadingZeros && 1 < digits.length && digits.head? == some '0'
  if digits.isEmpty || tooLong || padded || form.bound ≤ value then none
  else some (value, text.dropWhile isDigit)

def decimal : Scan Unit := do
  _ ← byte.scan
  char '.'
  _ ← byte.scan
  char '.'
  _ ← byte.scan
  char '.'
  _ ← byte.scan

structure Groups where
  count : Nat
  endsDecimal : Bool
  rest : List Char

def groups : (room : Nat) → (first : Bool) → List Char → Groups
  | 0, _, text => ⟨0, false, text⟩
  | room + 1, first, text =>
      let colon : Scan Unit := if first then pure () else char ':'
      let ending : Scan Unit := if room = 0 then failure else do colon; decimal
      match ending text with
      | some (_, rest) => ⟨2, true, rest⟩
      | none =>
          match (do colon; group.scan) text with
          | none => ⟨0, false, text⟩
          | some (_, rest) =>
              let others := groups room false rest
              { others with count := others.count + 1 }

/-- Eight groups, or fewer with two colons for at least one that is left out. -/
def hexadecimal : Scan Unit := fun text =>
  let front := groups 8 true text
  if front.count = 8 then some ((), front.rest)
  else if front.endsDecimal then none
  else
    match front.rest with
    | ':' :: ':' :: rest => some ((), (groups (8 - (front.count + 1)) true rest).rest)
    | _ => none

def zone : Scan Unit := do
  char '%'
  _ ← scope.scan

def bracketed : Scan Unit := do
  char '['
  hexadecimal
  zone <|> pure ()
  char ']'

def address : Scan Unit := do
  decimal <|> bracketed
  char ':'
  _ ← portNumber.scan

def isValid (text : String) : Bool :=
  match address text.toList with
  | some (_, []) => true
  | _ => false

end LdapService.SocketAddress

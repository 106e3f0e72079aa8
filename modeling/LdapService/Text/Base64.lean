import LdapService.Octets

/-!
Base64 text with the standard alphabet. Blanks between the digits are passed
over. The padding may be left out altogether; bits that fill up the last octet
are dropped.
-/

namespace LdapService.Text.Base64

inductive Fault where
  | badOctet (octet : UInt8)
  | earlyPadding
  | badPadding
  deriving DecidableEq, Repr

def Fault.message : Fault → String
  | badOctet octet => s!"InvalidCharacter({octet.toNat})"
  | earlyPadding => "PrematurePadding"
  | badPadding => "InvalidTrailingPadding"

def digit? (octet : UInt8) : Option Nat :=
  let code := octet.toNat
  if 0x41 ≤ code ∧ code ≤ 0x5a then some (code - 0x41)
  else if 0x61 ≤ code ∧ code ≤ 0x7a then some (code - 0x61 + 26)
  else if 0x30 ≤ code ∧ code ≤ 0x39 then some (code - 0x30 + 52)
  else if code = 0x2b then some 62
  else if code = 0x2f then some 63
  else none

def isBlank (octet : UInt8) : Bool :=
  octet == 0x20 || (0x09 ≤ octet && octet ≤ 0x0d)

def ofDigits : List Nat → Octets
  | a :: b :: c :: d :: rest =>
      let bits := ((a * 64 + b) * 64 + c) * 64 + d
      .ofNat (bits / 65536) :: .ofNat (bits / 256) :: .ofNat bits :: ofDigits rest
  | [a, b, c] =>
      let bits := (a * 64 + b) * 16 + c / 4
      [.ofNat (bits / 256), .ofNat bits]
  | [a, b] => [.ofNat (a * 4 + b / 16)]
  | _ => []

structure Reading where
  /-- The last digit first. -/
  digits : List Nat := []
  padding : Nat := 0

namespace Reading

def step (reading : Reading) (octet : UInt8) : Except Fault Reading :=
  if isBlank octet then .ok reading
  else if octet = 0x3d then .ok { reading with padding := reading.padding + 1 }
  else
    match digit? octet with
    | none => .error (.badOctet octet)
    | some digit =>
        if reading.padding = 0 then .ok { reading with digits := digit :: reading.digits }
        else .error .earlyPadding

/-- No digit stands alone in the last group, and padding fills that group up. -/
def isComplete (reading : Reading) : Bool :=
  let digits := reading.digits.length % 4
  if reading.padding = 0 then digits != 1 else 2 ≤ digits && digits + reading.padding == 4

end Reading

def decode (text : Octets) : Except Fault Octets := do
  let reading ← text.foldlM Reading.step {}
  if reading.isComplete then return ofDigits reading.digits.reverse else throw .badPadding

end LdapService.Text.Base64

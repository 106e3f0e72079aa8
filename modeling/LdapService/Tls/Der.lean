import LdapService.Ber.Reader

/-!
The distinguished encoding: of all forms of an element only the one that
`Ber.Element.write` gives counts. Values of 2^16 octets and more are refused.
-/

namespace LdapService.Tls.Der

variable {ε α β : Type}

def element? (octets : Octets) : Option (Ber.Element × Octets) :=
  match Ber.Element.read octets with
  | .error _ => none
  | .ok (found, rest) =>
      if found.value.length < 0x10000 ∧ octets = Ber.Element.write found.tag found.value ++ rest then
        some (found, rest)
      else none

theorem element?_eq_some_iff {octets rest : Octets} {found : Ber.Element} :
    element? octets = some (found, rest) ↔
      Ber.Element.read octets = .ok (found, rest) ∧ found.value.length < 0x10000 ∧
        octets = Ber.Element.write found.tag found.value ++ rest := by
  simp only [element?]
  constructor
  · intro h
    split at h
    · cases h
    · next read =>
      split at h
      · next sound =>
        obtain ⟨rfl, rfl⟩ := Prod.mk.inj (Option.some.inj h)
        exact ⟨read, sound⟩
      · cases h
  · rintro ⟨read, sound⟩
    simp only [read]
    exact if_pos sound

theorem length_element? {octets rest : Octets} {found : Ber.Element}
    (h : element? octets = some (found, rest)) : rest.length < octets.length := by
  have := Ber.Element.length_read (element?_eq_some_iff.1 h).1
  omega

def value (fault : ε) (tag : UInt8) : Ber.Reader ε Octets :=
  fun input =>
    match element? input with
    | some (found, rest) =>
        if found.tag = tag then (.ok found.value, rest) else (.error fault, input)
    | none => (.error fault, input)

def whole (fault : ε) (octets : Octets) (reader : Ber.Reader ε α) : Except ε α :=
  match reader octets with
  | (.ok found, []) => .ok found
  | (.ok _, _ :: _) => .error fault
  | (.error error, _) => .error error

def within (fault : ε) (tag : UInt8) (reader : Ber.Reader ε α) : Ber.Reader ε α := do
  Ber.Reader.ofExcept (whole fault (← value fault tag) reader)

def optional (fault : ε) (tag : UInt8) : Ber.Reader ε (Option Octets) := do
  if (← Ber.Reader.peek) = some tag then some <$> value fault tag else pure none

/-- A number that is not negative, without needless octets in front. -/
def naturalOf? : Octets → Option Nat
  | [] => none
  | [0] => some 0
  | 0 :: second :: rest => if second < 0x80 then none else some (Octets.toNat (second :: rest))
  | first :: rest => if first < 0x80 then some (Octets.toNat (first :: rest)) else none

def natural (fault : ε) : Ber.Reader ε Nat := do
  match naturalOf? (← value fault 0x02) with
  | some number => pure number
  | none => Ber.Reader.fail fault

def bits (fault : ε) : Ber.Reader ε Octets := do
  match ← value fault 0x03 with
  | 0 :: octets => pure octets
  | _ => Ber.Reader.fail fault

def fold (fault : ε) (tag : UInt8) (step : β → Octets → Except ε β) (state : β)
    (input : Octets) : Except ε β :=
  if input = [] then .ok state
  else
    match _ : element? input with
    | none => .error fault
    | some (found, rest) =>
        if found.tag = tag then
          match step state found.value with
          | .error error => .error error
          | .ok next => fold fault tag step next rest
        else .error fault
termination_by input.length
decreasing_by exact length_element? ‹_›

end LdapService.Tls.Der

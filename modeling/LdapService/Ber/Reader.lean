import LdapService.Ber.Element
import LdapService.Ber.Integer
import LdapService.Text.Utf8

/-!
Readers of a run of elements. A reader gives an outcome together with the
octets that are left, after a failure too: an element whose tag is not the
expected one has been passed, one that could not be read has not.
-/

namespace LdapService.Ber

def Reader (ε α : Type) : Type :=
  Octets → Except ε α × Octets

namespace Reader

variable {ε δ α β : Type}

def ofExcept (outcome : Except ε α) : Reader ε α :=
  fun input => (outcome, input)

def fail (error : ε) : Reader ε α :=
  ofExcept (.error error)

protected def bind (first : Reader ε α) (next : α → Reader ε β) : Reader ε β :=
  fun input =>
    match first input with
    | (.ok value, rest) => next value rest
    | (.error error, rest) => (.error error, rest)

instance : Monad (Reader ε) where
  pure value := ofExcept (.ok value)
  bind := Reader.bind

theorem map_id (reader : Reader ε α) : id <$> reader = reader := by
  funext input
  simp only [Functor.map, Reader.bind, ofExcept, Function.comp]
  split <;> simp_all

theorem bind_assoc {γ : Type} (reader : Reader ε α) (next : α → Reader ε β)
    (last : β → Reader ε γ) :
    reader >>= next >>= last = reader >>= fun value => next value >>= last := by
  funext input
  simp only [bind, Reader.bind]
  cases reader input with
  | mk outcome rest => cases outcome <;> rfl

instance : LawfulMonad (Reader ε) :=
  LawfulMonad.mk' _ map_id (fun _ _ => rfl) bind_assoc

theorem bind_of_ok {first : Reader ε α} {next : α → Reader ε β} {input rest : Octets}
    {value : α} (h : first input = (.ok value, rest)) :
    (first >>= next) input = next value rest := by
  simp [bind, Reader.bind, h]

theorem bind_of_error {first : Reader ε α} {next : α → Reader ε β} {input rest : Octets}
    {error : ε} (h : first input = (.error error, rest)) :
    (first >>= next) input = (.error error, rest) := by
  simp [bind, Reader.bind, h]

def mapError (f : ε → δ) (reader : Reader ε α) : Reader δ α :=
  fun input => ((reader input).1.mapError f, (reader input).2)

def peek : Reader ε (Option UInt8) :=
  fun input => (.ok input.head?, input)

def atEnd : Reader ε Bool :=
  fun input => (.ok input.isEmpty, input)

def element : Reader Error Element :=
  fun input =>
    match Element.read input with
    | .ok (found, rest) => (.ok found, rest)
    | .error error => (.error error, input)

def expect (tag : UInt8) : Reader Error Octets := do
  let found ← element
  if found.tag = tag then pure found.value else fail (.unexpectedTag tag found.tag)

def optional (tag : UInt8) : Reader Error (Option Octets) := do
  if (← peek) = some tag then some <$> expect tag else pure none

def integer (tag : UInt8) : Reader Error Int := do
  ofExcept (Integer.read (← expect tag))

def booleanOf : Octets → Except Error Bool
  | [octet] => .ok (octet != 0)
  | _ => .error .invalidBoolean

def boolean : Reader Error Bool := do
  ofExcept (booleanOf (← expect 0x01))

def textOf (value : Octets) : Except Error String :=
  match Text.ofUtf8? value with
  | some text => .ok text
  | none => .error .invalidUtf8

def text (tag : UInt8) : Reader Error String := do
  ofExcept (textOf (← expect tag))

def optionalText (tag : UInt8) : Reader Error (Option String) := do
  match ← optional tag with
  | some value => some <$> ofExcept (textOf value)
  | none => pure none

def finish : Reader Error Unit := do
  if ← atEnd then pure () else fail .trailingData

/-- Reads a value from its first octet; octets left over are not looked at. -/
def run (value : Octets) (reader : Reader ε α) : Except ε α :=
  (reader value).1

end Reader

/-- Takes the elements of `input` one by one into a state. Each takes at least
two octets, so the length of what is left bounds the run. -/
def foldElements {ε β : Type} (raise : Error → ε) (step : β → Element → Except ε β) (state : β)
    (input : Octets) : Except ε β :=
  if input = [] then .ok state
  else
    match _ : Element.read input with
    | .error error => .error (raise error)
    | .ok (found, rest) =>
        match step state found with
        | .error error => .error error
        | .ok next => foldElements raise step next rest
termination_by input.length
decreasing_by
  have := Element.length_read ‹_›
  omega

def mapElements {ε α : Type} (raise : Error → ε) (item : Element → Except ε α) (input : Octets) :
    Except ε (List α) :=
  (foldElements raise (fun values found => (item found).map (· :: values)) [] input).map List.reverse

end LdapService.Ber

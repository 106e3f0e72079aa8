import LdapService.Proofs.Ber.Readers

/-!
Elements as they stand in a message, and runs of them in which the content of one has been
exchanged for another of the same length. Around it nothing moves. Most readers take one
element and look at nothing else, so what they make of it does not depend on what follows.
-/

namespace LdapService.Ber

/-- An element with its length field, which need not be the shortest. -/
structure Encoded where
  tag : UInt8
  field : Octets
  value : Octets
  single : isMultiOctetTag tag = false
  isField : Length.IsField ⟨value.length, field.length⟩ field

namespace Encoded

def octets (encoded : Encoded) : Octets :=
  encoded.tag :: (encoded.field ++ encoded.value)

def element (encoded : Encoded) : Element :=
  ⟨encoded.tag, encoded.value⟩

def exchange (encoded : Encoded) (value : Octets) (same : value.length = encoded.value.length) :
    Encoded :=
  { encoded with value, isField := same ▸ encoded.isField }

theorem read_octets (encoded : Encoded) (rest : Octets) :
    Element.read (encoded.octets ++ rest) = .ok (encoded.element, rest) :=
  Element.read_eq_ok_iff.2 ⟨encoded.single, _, encoded.field, encoded.isField, rfl, rfl⟩

def written (tag : UInt8) (single : isMultiOctetTag tag = false) {value : Octets}
    (fits : Octets.Fits value) : Encoded :=
  ⟨tag, Length.write value.length, value, single, rfl, Length.read_write fits⟩

theorem octets_written (tag : UInt8) (single : isMultiOctetTag tag = false) {value : Octets}
    (fits : Octets.Fits value) : (written tag single fits).octets = Element.write tag value := rfl

end Encoded

/-- A run of elements in which the content of number `index` has been exchanged. The relation
of the two contents is told the tag in front of them. -/
inductive ChangedAt (change : UInt8 → Octets → Octets → Prop) : Nat → Octets → Octets → Prop
  | here {encoded : Encoded} {value : Octets} (same : value.length = encoded.value.length)
      (changed : change encoded.tag encoded.value value) (after : Octets) :
      ChangedAt change 0 (encoded.octets ++ after) ((encoded.exchange value same).octets ++ after)
  | later (encoded : Encoded) {index : Nat} {input input' : Octets}
      (changed : ChangedAt change index input input') :
      ChangedAt change (index + 1) (encoded.octets ++ input) (encoded.octets ++ input')

def Changed (change : UInt8 → Octets → Octets → Prop) (input input' : Octets) : Prop :=
  ∃ index, ChangedAt change index input input'

variable {ε δ α β : Type} {change : UInt8 → Octets → Octets → Prop} {error : ε}

section Written

variable {tag : UInt8} {value value' : Octets} (single : isMultiOctetTag tag = false)
  (fits : Octets.Fits value)

include single fits

theorem ChangedAt.write_here {after : Octets} (same : value'.length = value.length)
    (changed : change tag value value') :
    ChangedAt change 0 (Element.write tag value ++ after) (Element.write tag value' ++ after) := by
  have exchanged : ((Encoded.written tag single fits).exchange value' same).octets =
      Element.write tag value' := by
    rw [Element.write, same]
    rfl
  rw [← exchanged, ← Encoded.octets_written tag single fits]
  exact .here same changed after

theorem ChangedAt.write_last (same : value'.length = value.length)
    (changed : change tag value value') :
    ChangedAt change 0 (Element.write tag value) (Element.write tag value') := by
  have last : ChangedAt change 0 (Element.write tag value ++ []) (Element.write tag value' ++ []) :=
    .write_here single fits same changed
  simpa using last

theorem ChangedAt.write_later {index : Nat} {input input' : Octets}
    (changed : ChangedAt change index input input') :
    ChangedAt change (index + 1) (Element.write tag value ++ input)
      (Element.write tag value ++ input') :=
  .later (.written tag single fits) changed

end Written

theorem ChangedAt.nonempty {index : Nat} {input input' : Octets}
    (apart : ChangedAt change index input input') : input ≠ [] ∧ input' ≠ [] := by
  cases apart <;> exact ⟨List.cons_ne_nil _ _, List.cons_ne_nil _ _⟩

namespace Reader

/-- Takes one element, and nothing but this element decides what comes of it. -/
def TakesOne (reader : Reader ε α) (judge : Element → Except ε α) : Prop :=
  ∀ (encoded : Encoded) (rest : Octets),
    reader (encoded.octets ++ rest) = (judge encoded.element, rest)

theorem takesOne_element : TakesOne element .ok := by
  intro encoded rest
  rw [element, encoded.read_octets]

namespace TakesOne

variable {reader : Reader ε α} {judge : Element → Except ε α} {next : α → Reader ε β}
  {encoded : Encoded} {rest last : Octets} {found : α} {value : β}

theorem bind_of_ok (takes : reader.TakesOne judge) (judged : judge encoded.element = .ok found) :
    (reader >>= next) (encoded.octets ++ rest) = next found rest :=
  Reader.bind_of_ok (by rw [takes, judged])

theorem bind_of_error (takes : reader.TakesOne judge)
    (judged : judge encoded.element = .error error) :
    (reader >>= next) (encoded.octets ++ rest) = (.error error, rest) :=
  Reader.bind_of_error (by rw [takes, judged])

theorem of_bind_ok (takes : reader.TakesOne judge)
    (h : (reader >>= next) (encoded.octets ++ rest) = (.ok value, last)) :
    ∃ found, judge encoded.element = .ok found ∧ next found rest = (.ok value, last) := by
  obtain ⟨found, between, read, h⟩ := bind_eq_ok h
  rw [takes] at read
  obtain ⟨judged, rfl⟩ := Prod.mk.inj read
  exact ⟨found, judged, h⟩

theorem judged (takes : reader.TakesOne judge) (next : α → Except ε β) :
    TakesOne (reader >>= fun found => ofExcept (next found)) fun element =>
      judge element >>= next := by
  intro encoded rest
  change _ = (judge encoded.element >>= next, rest)
  cases judged : judge encoded.element with
  | error error =>
    rw [takes.bind_of_error judged]
    rfl
  | ok found =>
    rw [takes.bind_of_ok judged]
    rfl

theorem mapError (takes : reader.TakesOne judge) (f : ε → δ) :
    TakesOne (reader.mapError f) fun element => (judge element).mapError f := by
  intro encoded rest
  rw [Reader.mapError, takes]

end TakesOne

def expectation (tag : UInt8) (element : Element) : Except Error Octets :=
  if element.tag = tag then .ok element.value else .error (.unexpectedTag tag element.tag)

theorem takesOne_expect (tag : UInt8) : TakesOne (expect tag) (expectation tag) := by
  intro encoded rest
  rw [expect, takesOne_element.bind_of_ok rfl, expectation]
  split <;> rfl

theorem takesOne_integer (tag : UInt8) :
    TakesOne (integer tag) fun element => expectation tag element >>= Integer.read :=
  (takesOne_expect tag).judged Integer.read

theorem takesOne_boolean :
    TakesOne boolean fun element => expectation 0x01 element >>= booleanOf :=
  (takesOne_expect 0x01).judged booleanOf

theorem takesOne_text (tag : UInt8) :
    TakesOne (text tag) fun element => expectation tag element >>= textOf :=
  (takesOne_expect tag).judged textOf

structure TakesIf (tag : UInt8) (reader : Reader ε (Option α)) (judge : Octets → Except ε α) :
    Prop where
  there : ∀ encoded : Encoded, encoded.tag = tag → ∀ rest,
    reader (encoded.octets ++ rest) = (some <$> judge encoded.value, rest)
  absent : ∀ input : Octets, input.head? ≠ some tag → reader input = (.ok none, input)

theorem takesIf_optional (tag : UInt8) : TakesIf tag (optional tag) .ok where
  there encoded here rest := by
    have head : (encoded.octets ++ rest).head? = some tag := by rw [← here]; rfl
    have expected : expectation tag encoded.element = .ok encoded.value := if_pos here
    rw [optional, bind_of_ok (peek_apply _), if_pos head]
    exact (takesOne_expect tag).bind_of_ok expected
  absent _ other := optional_absent other

theorem takesIf_optionalText (tag : UInt8) : TakesIf tag (optionalText tag) textOf where
  there encoded here rest := by
    have read := (takesIf_optional tag).there encoded here rest
    rw [optionalText, bind_of_ok read]
    change (some <$> ofExcept (textOf encoded.value)) rest = _
    cases textOf encoded.value <;> rfl
  absent _ other := optionalText_absent other

theorem TakesIf.mapError {tag : UInt8} {reader : Reader ε (Option α)} {judge : Octets → Except ε α}
    (takes : TakesIf tag reader judge) (f : ε → δ) :
    TakesIf tag (reader.mapError f) fun value => (judge value).mapError f where
  there encoded here rest := by
    rw [Reader.mapError, takes.there encoded here]
    cases judge encoded.value <;> rfl
  absent input other := by
    rw [Reader.mapError, takes.absent input other]
    rfl

def Ends (reader : Reader ε Unit) : Prop :=
  ∀ ⦃input rest⦄, reader input = (.ok (), rest) → input = []

theorem ends_finish : Ends finish := by
  intro input rest ended
  cases input with
  | nil => rfl
  | cons first input => cases ended

theorem Ends.mapError {reader : Reader ε Unit} (ends : reader.Ends) (f : ε → δ) :
    (reader.mapError f).Ends :=
  fun _ _ ended => ends (of_mapError_ok ended)

end Reader

theorem foldElements_octets {raise : Error → ε} (step : β → Element → Except ε β) (state : β)
    (encoded : Encoded) (rest : Octets) :
    foldElements raise step state (encoded.octets ++ rest) =
      step state encoded.element >>= fun next => foldElements raise step next rest := by
  have read := encoded.read_octets rest
  have nonempty : encoded.octets ++ rest ≠ [] := List.cons_ne_nil _ _
  rw [foldElements, if_neg nonempty]
  split
  · next failed =>
    rw [read] at failed
    cases failed
  · next done =>
    rw [read] at done
    cases done
    cases step state encoded.element <;> rfl

end LdapService.Ber

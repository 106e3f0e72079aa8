import LdapService.Message.Reading
import LdapService.Proofs.Ber.Runs
import LdapService.Proofs.Message.Parts

/-!
Texts and attributes as they may travel, under length fields of any form. Exactly what is spelled
so is read, and it is read as what it spells.
-/

namespace LdapService

open Ber

def textElement (text : String) : Element :=
  ⟨Tag.octetString, Text.utf8 text⟩

namespace Ber.Reader

def textAnd (tag : UInt8) : Reader Error (String × Octets) := do
  let text ← text Tag.octetString
  let content ← expect tag
  finish
  return (text, content)

variable {α : Type} {tag : UInt8} {input rest : Octets} {elements : List Element} {text : String}
  {content : Octets}

theorem textOf_eq_ok_iff {value : Octets} : textOf value = .ok text ↔ value = Text.utf8 text := by
  rw [← Text.ofUtf8?_eq_some_iff]
  unfold textOf
  cases Text.ofUtf8? value <;> simp

theorem except_bind_eq_ok_iff {ε β : Type} {outcome : Except ε α} {next : α → Except ε β}
    {value : β} :
    (outcome >>= next) = .ok value ↔ ∃ found, outcome = .ok found ∧ next found = .ok value := by
  refine ⟨of_bind_ok, ?_⟩
  rintro ⟨found, rfl, goesOn⟩
  exact goesOn

theorem except_map_eq_ok_iff {ε β : Type} {outcome : Except ε α} {f : α → β} {value : β} :
    f <$> outcome = .ok value ↔ ∃ found, outcome = .ok found ∧ f found = value := by
  cases outcome with
  | error error => exact iff_of_false nofun fun ⟨_, found, _⟩ => nomatch found
  | ok found => simp only [Functor.map, Except.map, Except.ok.injEq, exists_eq_left']

theorem lift_eq_ok_iff {outcome : Except Error α} {value : α} :
    (liftM outcome : Except Fault α) = .ok value ↔ outcome = .ok value :=
  ⟨of_lift_ok, lift_ok⟩

theorem expect_of_spells (spells : Spells input (⟨tag, content⟩ :: elements)) :
    ∃ rest, Spells rest elements ∧ expect tag input = (.ok content, rest) := by
  obtain ⟨rest, others, read⟩ := (takesOne_expect tag).of_spells spells
  refine ⟨rest, others, ?_⟩
  rw [read, expectation, if_pos rfl]

theorem text_of_spells (spells : Spells input (⟨tag, Text.utf8 text⟩ :: elements)) :
    ∃ rest, Spells rest elements ∧ Reader.text tag input = (.ok text, rest) := by
  obtain ⟨rest, others, read⟩ := expect_of_spells spells
  refine ⟨rest, others, ?_⟩
  rw [Reader.text, bind_of_ok read, ofExcept_apply, textOf_utf8]

theorem exists_of_text (h : Reader.text tag input = (.ok text, rest)) :
    ∃ encoded : Encoded, encoded.element = ⟨tag, Text.utf8 text⟩ ∧
      input = encoded.octets ++ rest := by
  obtain ⟨value, between, read, h⟩ := bind_eq_ok h
  obtain ⟨judged, rfl⟩ := Prod.mk.inj h
  rw [← textOf_eq_ok_iff.1 judged]
  exact exists_of_expect read

theorem takesOne_fault {reader : Reader Error α} {judge : Element → Except Error α}
    (takes : reader.TakesOne judge) :
    TakesOne (liftM reader : Reader Fault α) fun element =>
      (judge element).mapError Fault.encoding :=
  takes.mapError _

theorem textAnd_eq_ok_iff {value : Octets} : run value (textAnd tag) = .ok (text, content) ↔
    Spells value [textElement text, ⟨tag, content⟩] := by
  constructor
  · intro h
    obtain ⟨last, h⟩ := of_run_ok h
    obtain ⟨found, between, first, h⟩ := bind_eq_ok h
    obtain ⟨held, between', second, h⟩ := bind_eq_ok h
    obtain ⟨_, _, ended, h⟩ := bind_eq_ok h
    cases h
    obtain ⟨encoded, same, rfl⟩ := exists_of_text first
    obtain ⟨encoded', same', rfl⟩ := exists_of_expect second
    obtain rfl := ends_finish ended
    rw [textElement, ← same, ← same']
    exact .cons encoded (.cons encoded' .nil)
  · intro spells
    obtain ⟨between, others, first⟩ := text_of_spells spells
    obtain ⟨last, nothing, second⟩ := expect_of_spells others
    obtain rfl := nothing.eq_nil
    rw [run, textAnd, bind_of_ok first, bind_of_ok second]
    rfl

end Ber.Reader

theorem Ber.Element.expect_eq_ok_iff {element : Element} {tag : UInt8} {content : Octets} :
    element.expect tag = .ok content ↔ element = ⟨tag, content⟩ := by
  obtain ⟨tag', value⟩ := element
  unfold Element.expect
  rw [Element.mk.injEq]
  by_cases same : tag' = tag
  · rw [if_pos same, Except.ok.injEq, and_iff_right same]
  · rw [if_neg same]
    exact iff_of_false nofun fun h => same h.1

theorem readTexts_eq_ok_iff {input : Octets} {texts : List String} :
    readTexts input = .ok texts ↔ Spells input (texts.map textElement) := by
  have read (element : Element) (text : String) :
      (element.expect Tag.octetString >>= Reader.textOf) = .ok text ↔
        element = textElement text := by
    simp only [Reader.except_bind_eq_ok_iff, Element.expect_eq_ok_iff, Reader.textOf_eq_ok_iff,
      exists_eq_right, textElement]
  unfold readTexts
  rw [mapElements_eq_ok_iff]
  simp only [read, ← List.forall₂_map_right_iff (f := textElement), List.forall₂_eq_eq_eq,
    exists_eq_right]

namespace Attributes

def Spelled (value : Octets) (pair : String × List String) : Prop :=
  ∃ set, Spells value [textElement pair.1, ⟨Tag.set, set⟩] ∧ Spells set (pair.2.map textElement)

theorem readAttribute_eq_ok_iff {value : Octets} {pair : String × List String} :
    readAttribute value = .ok pair ↔ Spelled value pair := by
  change (Reader.run value (Reader.textAnd Tag.set) >>= _) = _ ↔ _
  constructor
  · intro h
    obtain ⟨⟨attr, set⟩, read, h⟩ := Reader.of_bind_ok h
    obtain ⟨values, listed, h⟩ := Reader.of_bind_ok h
    cases h
    exact ⟨set, Reader.textAnd_eq_ok_iff.1 read, readTexts_eq_ok_iff.1 listed⟩
  · rintro ⟨set, spells, values⟩
    rw [Reader.textAnd_eq_ok_iff.2 spells, Reader.ok_bind]
    simp only [readTexts_eq_ok_iff.2 values]
    rfl

end Attributes

end LdapService

import LdapService.Message.Fault
import LdapService.Message.Response
import LdapService.Proofs.Ber.Readers

/-!
Pieces that several messages share: optional parts, lists of texts, and attributes
with their values. An optional part is read as absent when what follows it has
another tag.
-/

namespace LdapService

open Ber

theorem natBelow?_eq_some_iff {bound found : Nat} {number : Int} :
    natBelow? bound number = some found ↔ number = found ∧ found < bound := by
  unfold natBelow?
  split
  · next within =>
    rw [Option.some_inj]
    omega
  · next outside =>
    refine ⟨nofun, fun found => ?_⟩
    omega

namespace Ber.Reader

/-! Readings of parts stand in the readings of operations, whose faults are more. -/

section Lifted

variable {α β : Type}

theorem lift_of_ok {reader : Reader Error α} {input rest : Octets} {value : α}
    (h : reader input = (.ok value, rest)) :
    (liftM reader : Reader Fault α) input = (.ok value, rest) :=
  mapError_of_ok h Fault.encoding

theorem ofExcept_of_ok {ε : Type} {outcome : Except ε α} {value : α} (h : outcome = .ok value)
    (input : Octets) : (liftM outcome : Reader ε α) input = (.ok value, input) :=
  congrArg (·, input) h

theorem lift_ok {outcome : Except Error α} {value : α} (h : outcome = .ok value) :
    (liftM outcome : Except Fault α) = .ok value := by
  rw [h]
  rfl

theorem ok_bind {ε : Type} (value : α) (next : α → Except ε β) :
    ((.ok value : Except ε α) >>= next) = next value := rfl

theorem run_mapError_bind {ε δ : Type} {reader : Reader ε α} (f : ε → δ) {next : α → Except δ β}
    {input : Octets} {found : α} {outcome : Except δ β}
    (h : reader (input ++ []) = (.ok found, [])) (goesOn : next found = outcome) :
    ((run input reader).mapError f >>= next) = outcome := by
  rw [run_eq h]
  exact goesOn

theorem run_lift_bind {reader : Reader Error α} {next : α → Except Fault β} {input : Octets}
    {found : α} {outcome : Except Fault β} (h : reader (input ++ []) = (.ok found, []))
    (goesOn : next found = outcome) :
    ((liftM (run input reader) : Except Fault α) >>= next) = outcome :=
  run_mapError_bind Fault.encoding h goesOn

end Lifted

/-! The same steps backwards. -/

section Backwards

variable {ε α : Type}

theorem of_ofExcept_ok {outcome : Except ε α} {input rest : Octets} {value : α}
    (h : (liftM outcome : Reader ε α) input = (.ok value, rest)) : outcome = .ok value :=
  congrArg Prod.fst h

theorem of_lift_ok {outcome : Except Error α} {value : α}
    (h : (liftM outcome : Except Fault α) = .ok value) : outcome = .ok value := by
  cases outcome with
  | ok found => cases h; rfl
  | error error => cases h

end Backwards

end Ber.Reader

namespace Response

theorem optionalPart_value {tag : UInt8} (single : isMultiOctetTag tag = false)
    {value : Option Octets} (h : Octets.Fits (optionalPart tag value)) {rest : Octets}
    (other : rest.head? ≠ some tag) :
    Reader.optional tag (optionalPart tag value ++ rest) = (.ok value, rest) := by
  cases value with
  | none => exact Reader.optional_absent other
  | some value => exact Reader.optional_write single (Element.fits_of_write h) rest

theorem optionalPart_text {tag : UInt8} (single : isMultiOctetTag tag = false)
    {text : Option String} (h : Octets.Fits (optionalPart tag (text.map Text.utf8)))
    {rest : Octets} (other : rest.head? ≠ some tag) :
    Reader.optionalText tag (optionalPart tag (text.map Text.utf8) ++ rest) = (.ok text, rest) := by
  cases text with
  | none => exact Reader.optionalText_absent other
  | some text => exact Reader.optionalText_write single h rest

theorem optionalPart_head {tag other : UInt8} (different : tag ≠ other) (value : Option Octets) :
    (optionalPart tag value).head? ≠ some other := by
  cases value with
  | none => simp [optionalPart]
  | some value => simpa [optionalPart, Element.write] using different

end Response

theorem readTexts_write {texts : List String}
    (h : Octets.Fits (texts.flatMap (writeText Tag.octetString))) :
    readTexts (texts.flatMap (writeText Tag.octetString)) = .ok texts := by
  refine mapElements_flatMap (fun text _ => ⟨Tag.octetString, Text.utf8 text, rfl, rfl, ?_⟩) h
  simp [Element.expect, bind, Except.bind, Reader.textOf_utf8]

def writeAttribute (pair : String × List String) : Octets :=
  writeText Tag.octetString pair.1
    ++ Element.write Tag.set (pair.2.flatMap (writeText Tag.octetString))

theorem readAttribute_write {pair : String × List String} (h : Octets.Fits (writeAttribute pair)) :
    readAttribute (writeAttribute pair) = .ok pair := by
  unfold writeAttribute at h ⊢
  have inside := Element.fits_of_write h.right
  apply Reader.run_bind
  · rw [List.append_assoc, Reader.bind_of_ok (Reader.text_write rfl h.left _),
      Reader.bind_of_ok (Reader.expect_write rfl inside []), Reader.bind_of_ok Reader.finish_nil]
    rfl
  · simp [bind, Except.bind, readTexts_write inside]
    rfl

end LdapService

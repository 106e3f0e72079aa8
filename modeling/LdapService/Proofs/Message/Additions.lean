import LdapService.Proofs.Attributes.Collection
import LdapService.Proofs.Message.RoundTrip

/-!
Add requests. Attributes come in any order, and a name in as many of them as the client likes,
with any number of values each time. The entry collects them; nothing else is an add request.
-/

namespace LdapService

open Ber

namespace Entry

def Spelled (value : Octets) (dn : String) (pairs : List (String × List String)) : Prop :=
  ∃ list elements, Spells value [textElement dn, ⟨Tag.sequence, list⟩] ∧ Spells list elements ∧
    List.Forall₂ (fun element pair => ∃ content,
      element = ⟨Tag.sequence, content⟩ ∧ Attributes.Spelled content pair) elements pairs

theorem ofValue_eq_ok_iff {value : Octets} {entry : Entry} :
    ofValue value = .ok entry ↔
      ∃ pairs, Spelled value entry.dn pairs ∧ entry.attributes = .ofPairs pairs := by
  have read (element : Element) (pair : String × List String) :
      ((liftM (element.expect Tag.sequence) : Except Fault Octets) >>= fun content =>
          (liftM (readAttribute content) : Except Fault (String × List String))) = .ok pair ↔
        ∃ content, element = ⟨Tag.sequence, content⟩ ∧ Attributes.Spelled content pair := by
    simp only [Reader.except_bind_eq_ok_iff, Reader.lift_eq_ok_iff, Element.expect_eq_ok_iff,
      Attributes.readAttribute_eq_ok_iff]
  change ((liftM (Reader.run value (Reader.textAnd Tag.sequence)) : Except Fault _) >>= _) = _ ↔ _
  rw [Reader.except_bind_eq_ok_iff]
  simp only [Reader.lift_eq_ok_iff, Prod.exists, Reader.textAnd_eq_ok_iff,
    Reader.except_bind_eq_ok_iff, mapElements_eq_ok_iff, read]
  constructor
  · rintro ⟨dn, list, spells, pairs, ⟨elements, listed, each⟩, made⟩
    cases made
    exact ⟨pairs, ⟨list, elements, spells, listed, each⟩, rfl⟩
  · rintro ⟨pairs, ⟨list, elements, spells, listed, each⟩, collected⟩
    refine ⟨entry.dn, list, spells, pairs, ⟨elements, listed, each⟩, ?_⟩
    rw [← collected]
    rfl

end Entry

namespace Message

/-- An entry that is to be added has exactly the names that the request names, each with the
values of all its occurrences in the order in which they came. Every listing is taken, with any
names as often as it has them, and no add request comes from anything else. -/
theorem add_collects (frame : Octets) (id : Nat) (controls : List Control) :
    (∀ pairs, ∃! attributes : Attributes, attributes.Collects pairs) ∧
    ∀ entry, decode frame = .ok { id, request := .add entry, controls } ↔
      (∀ control ∈ controls, control.critical = false) ∧
      ∃ value pairs, Envelope.ofFrame frame = .ok ⟨id, ⟨RequestKind.add.tag, value⟩, controls⟩ ∧
        Entry.Spelled value entry.dn pairs ∧ entry.attributes.Collects pairs := by
  have passes (entry : Entry) : Passes (.add entry) controls ↔
      ∀ control ∈ controls, control.critical = false := by
    simp only [Passes, Request.kind, reduceCtorEq, false_or]
  have read (operation : Element) (entry : Entry) : Request.ofElement operation = .ok (.add entry) ↔
      operation.tag = RequestKind.add.tag ∧ Entry.ofValue operation.value = .ok entry := by
    rw [Request.ofElement_eq_ok_iff]
    refine and_congr_right fun _ => ⟨fun h => ?_, fun h => ?_⟩
    · obtain ⟨found, read, same⟩ := Reader.of_map_ok h
      cases same
      exact read
    · change Request.add <$> Entry.ofValue operation.value = _
      rw [h]
      rfl
  refine ⟨fun pairs => ⟨.ofPairs pairs, Attributes.ofPairs_collects pairs, ?_⟩, fun entry => ?_⟩
  · exact fun attributes collects => Attributes.collects_iff.1 collects
  · rw [decode_eq_ok_iff, passes]
    refine and_congr_right fun _ => ?_
    simp only [read, Entry.ofValue_eq_ok_iff, ← Attributes.collects_iff]
    constructor
    · rintro ⟨⟨tag, value⟩, sound, rfl, pairs, spelled, collects⟩
      exact ⟨value, pairs, sound, spelled, collects⟩
    · rintro ⟨value, pairs, sound, spelled, collects⟩
      exact ⟨⟨RequestKind.add.tag, value⟩, sound, rfl, pairs, spelled, collects⟩

end Message

end LdapService

import LdapService.Proofs.Message.Envelopes
import LdapService.Proofs.Message.RequestRoundTrip

/-!
Messages read back as they were written: controls, the envelope around them, and the
request inside.
-/

namespace LdapService

open Ber

namespace Control

theorem ofElement_write {control : Control} (h : Octets.Fits control.write) :
    IsElementOf ofElement control.write control := by
  obtain ⟨oid, critical, value⟩ := control
  have inside := Element.fits_of_write h
  refine ⟨_, _, rfl, rfl, ?_⟩
  change Reader.run _ _ = _
  refine Reader.run_eq ?_
  have bare : ([] : Octets).head? ≠ some Tag.octetString := by simp
  have last : Reader.optional Tag.octetString (Response.optionalPart Tag.octetString value ++ []) = _ :=
    Response.optionalPart_value rfl inside.right bare
  simp only [List.append_assoc]
  rw [Reader.bind_of_ok (Reader.text_write rfl inside.left.left _),
    Reader.bind_of_ok (Reader.peek_apply _)]
  cases critical with
  | true =>
    have here : (writeBoolean true ++ (Response.optionalPart Tag.octetString value ++ [])).head? =
        some Tag.boolean := rfl
    rw [if_pos rfl, if_pos here, Reader.bind_of_ok (Reader.boolean_write true _),
      Reader.bind_of_ok last]
    rfl
  | false =>
    have other : (([] : Octets) ++ (Response.optionalPart Tag.octetString value ++ [])).head? ≠
        some Tag.boolean := by
      rw [List.nil_append, List.append_nil]
      exact Response.optionalPart_head (by decide) value
    rw [if_neg Bool.false_ne_true, if_neg other, Reader.bind_of_ok (Reader.pure_apply false _),
      List.nil_append, Reader.bind_of_ok last]
    rfl

theorem listOf_write {controls : List Control} (h : Octets.Fits (controls.flatMap write)) :
    listOf (controls.flatMap write) = .ok controls :=
  mapElements_flatMap (fun _ mem => ofElement_write (h.of_mem mem)) h

end Control

namespace Message

theorem controlsOf_written (controls : Option (List Control))
    (fits : Octets.Fits (Response.optionalPart Tag.controls
      (controls.map fun list => list.flatMap Control.write))) :
    Envelope.controlsOf (Response.optionalPart Tag.controls
      (controls.map fun list => list.flatMap Control.write)) = .ok (controls.getD []) := by
  have bare : ([] : Octets).head? ≠ some Tag.controls := by simp
  refine Reader.run_eq ?_
  rw [Reader.bind_of_ok (Response.optionalPart_value rfl fits bare)]
  cases controls with
  | none => rw [Option.map_none, Option.getD_none, Control.listOf, mapElements, foldElements_nil]; rfl
  | some list =>
    have listed := Control.listOf_write (Element.fits_of_write fits)
    rw [Option.map_some, Option.getD_some, listed]
    rfl

theorem controlsOf_writeAll {controls : List Control}
    (h : Octets.Fits (Control.writeAll controls)) :
    Envelope.controlsOf (Control.writeAll controls) = .ok controls := by
  unfold Control.writeAll at h ⊢
  split
  · next absent =>
    rw [absent]
    exact controlsOf_written none (by decide)
  · next present =>
    rw [if_neg present] at h
    exact controlsOf_written (some controls) h

theorem ofBody_write {id : Nat} {operation : Element} {controls : List Control}
    (low : id ≤ maxInt) (single : isMultiOctetTag operation.tag = false)
    (h : Octets.Fits (writeInteger Tag.integer id
      ++ (operation.octets ++ Control.writeAll controls))) :
    Envelope.ofBody (writeInteger Tag.integer id ++ (operation.octets ++ Control.writeAll controls)) =
      .ok ⟨id, operation, controls⟩ := by
  have checked : natBelow? (maxInt + 1) id = some id :=
    natBelow?_eq_some_iff.2 ⟨rfl, Nat.lt_succ_of_le low⟩
  unfold maxInt at low
  let number := Encoded.written Tag.integer rfl (Element.fits_of_write h.left)
  let inner := Encoded.written operation.tag single (Element.fits_of_write h.right.left)
  have numbered : Envelope.numberOf number.element = .ok id :=
    Integer.read_write (by omega) (by omega)
  have parts := Envelope.ofBody_eq number inner.yields (Control.writeAll controls)
  rw [numbered, controlsOf_writeAll h.right.right] at parts
  exact parts.trans (Envelope.assemble_of_below checked _ _)

theorem ofFrame_write {id : Nat} {operation : Element} {controls : List Control}
    (low : id ≤ maxInt) (single : isMultiOctetTag operation.tag = false)
    (h : (Response.message id (operation.octets ++ Control.writeAll controls)).length < 2 ^ 32) :
    Envelope.ofFrame (Response.message id (operation.octets ++ Control.writeAll controls)) =
      .ok ⟨id, operation, controls⟩ := by
  have body := Element.fits_of_write h
  apply Reader.run_mapError_bind
  · rw [Response.message, Reader.bind_of_ok (Reader.expect_write rfl body []),
      Reader.bind_of_ok Reader.finish_nil]
    rfl
  · exact ofBody_write low single body

theorem single_tag (kind : RequestKind) : isMultiOctetTag kind.tag = false := by
  cases kind <;> rfl

theorem ofFrame_message {message : Message} (id : message.id ≤ maxInt)
    (h : message.write.length < 2 ^ 32) :
    Envelope.ofFrame message.write =
      .ok ⟨message.id, ⟨message.request.kind.tag, message.request.write⟩, message.controls⟩ :=
  @ofFrame_write message.id ⟨_, message.request.write⟩ message.controls id (single_tag _) h

def Passes (request : Request) (controls : List Control) : Prop :=
  request.kind = .unbind ∨ request.kind = .abandon ∨ ∀ control ∈ controls, control.critical = false

theorem passes_iff {request : Request} {controls : List Control} :
    Passes request controls ↔
      request.kind.response? = none ∨ controls.find? (·.critical) = none := by
  have unanswered : request.kind.response? = none ↔
      request.kind = .unbind ∨ request.kind = .abandon := by
    cases request.kind <;> decide
  rw [Passes, unanswered, or_assoc]
  simp only [List.find?_eq_none, Bool.not_eq_true]

/-- A frame is a message exactly if it is an envelope around its request, under its controls. -/
theorem decode_eq_ok_iff {frame : Octets} {message : Message} :
    decode frame = .ok message ↔ Passes message.request message.controls ∧
      ∃ operation, Envelope.ofFrame frame = .ok ⟨message.id, operation, message.controls⟩ ∧
        Request.ofElement operation = .ok message.request := by
  unfold decode
  constructor
  · intro h
    split at h
    · cases h
    · next envelope sound =>
      obtain ⟨understood, passes, id, controls⟩ := ofEnvelope_eq_ok_iff.1 h
      rw [id, controls]
      exact ⟨passes_iff.2 passes, envelope.operation, sound, understood⟩
  · rintro ⟨passes, operation, sound, understood⟩
    rw [sound]
    exact ofEnvelope_eq_ok_iff.2 ⟨understood, passes_iff.1 passes, rfl, rfl⟩

theorem decode_write {message : Message} (form : message.HasForm)
    (h : message.write.length < 2 ^ 32) : decode message.write = .ok message := by
  have operation := Element.fits_of_write (Element.fits_of_write h).right.left
  exact decode_eq_ok_iff.2 ⟨form.controls, _, ofFrame_message form.id h,
    Request.ofElement_write form.request operation⟩

end Message

end LdapService

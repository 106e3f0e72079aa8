import LdapService.Proofs.Message.RoundTrip
import LdapService.Proofs.Session.Blocks

/-!
Requests that are refused for what they hold. The envelope around them is sound, so there is a
number to answer under: a session that takes up such a message sends the one answer, whatever its
handler is, and is ready for the next.
-/

namespace LdapService

open Ber

/-- The frame is refused so, and that is what a session with a sound writer tells its client. -/
structure Refusal.Answers (refusal : Refusal) (frame : Octets) : Prop where
  decoded : Message.decode frame = .error (.refused refusal)
  goesOn {σ : Type} (handler : Handler σ) (now : Nat) (session : Session σ) :
    session.connection.writer.IsSound → ∃ connection : Connection σ,
      session.takeMessage handler now frame = { session with connection, phase := .ready } ∧
      connection.writer.IsSound ∧
      connection.writer.transport.written = session.connection.writer.transport.written ++
        [Response.message refusal.id (Element.write refusal.response.tag
          (Response.components refusal.code "" refusal.reason))]

theorem Refusal.answers_of_decode {refusal : Refusal} {frame : Octets}
    (decoded : Message.decode frame = .error (.refused refusal)) : refusal.Answers frame where
  decoded := decoded
  goesOn handler now session sound := by
    have rejected := @Connection.reject_refused _ { session.connection with stage := .decoding }
      sound refusal
    simp only [Session.takeMessage, decoded, Session.reject, rejected]
    exact ⟨_, rfl, sound.sent _, rfl⟩

namespace Message

variable {frame value : Octets} {id : Nat} {controls : List Control}

/-- The first fault of an operation decides, so its controls are not looked at. -/
theorem refusal_answers {operation : Element} {cause : Rejection}
    (sound : Envelope.ofFrame frame = .ok ⟨id, operation, controls⟩)
    (rejected : Request.ofElement operation = .error (.rejected cause)) :
    Refusal.Answers ⟨id, ResponseKind.forTag operation.tag, cause.code, cause.message⟩ frame := by
  refine Refusal.answers_of_decode ?_
  simp only [decode, sound, ofEnvelope, rejected]
  rfl

section Searches

variable (sound : Envelope.ofFrame frame = .ok ⟨id, ⟨RequestKind.search.tag, value⟩, controls⟩)

include sound

theorem search_refused {cause : Rejection}
    (rejected : SearchRequest.ofValue value = .error (.rejected cause)) :
    Refusal.Answers ⟨id, .searchDone, cause.code, cause.message⟩ frame := by
  refine refusal_answers sound ?_
  rw [Request.ofElement_eq (RequestKind.ofTag?_tag .search), Request.ofValue, rejected]
  rfl

theorem search_decoded_iff (uncritical : ∀ control ∈ controls, control.critical = false)
    {message : Message} :
    decode frame = .ok message ↔ ∃ request, SearchRequest.ofValue value = .ok request ∧
      message = { id, request := .search request, controls } := by
  have search : Request.ofElement ⟨RequestKind.search.tag, value⟩ =
      Request.search <$> SearchRequest.ofValue value :=
    Request.ofElement_eq (RequestKind.ofTag?_tag .search) value
  rw [decode_eq_ok_iff]
  constructor
  · rintro ⟨-, operation, sound', understood⟩
    rw [sound] at sound'
    cases sound'
    rw [search, Reader.except_map_eq_ok_iff] at understood
    obtain ⟨request, read, same⟩ := understood
    exact ⟨request, read, by rw [same]⟩
  · rintro ⟨request, read, rfl⟩
    refine ⟨.inr (.inr uncritical), _, sound, ?_⟩
    rw [search, read]
    rfl

end Searches

end Message

end LdapService

import LdapService.Directory.Shared
import LdapService.Proofs.Session.Fates
import LdapService.Proofs.Session.Blocks
import LdapService.Proofs.Session.Written

/-!
Unbind and abandon are taken up without an answer. That is so of every one whose
content can be read, and of one whose encoding is broken, which ends the session with
a notice. But an abandon of a number that no message can have is refused like any
other request, and to be refused is to be answered.
-/

namespace LdapService

open Ber

/-- An abandon of a number that is not within 32 bits without a sign. -/
def Message.Envelope.AbandonsNothing (envelope : Message.Envelope) : Prop :=
  envelope.operation.tag = RequestKind.abandon.tag ∧
    ∃ number, Integer.read envelope.operation.value = .ok number ∧
      ¬(0 ≤ number ∧ number < 0x100000000)

def Message.Envelope.abandonRefusal (envelope : Message.Envelope) : Refusal :=
  ⟨envelope.id, .extended, .protocolError, Rejection.invalidAbandonId.message⟩

theorem Ber.Integer.eq_of_read_error {octets : Octets} {error : Ber.Error}
    (h : Integer.read octets = .error error) : error = .invalidInteger := by
  unfold Integer.read at h
  split at h
  · cases h
    rfl
  · split at h
    · cases h
      rfl
    · cases h

theorem Request.ofValue_abandon (value : Octets) :
    Request.ofValue .abandon value =
      match Integer.read value with
      | .error error => .error (.encoding error)
      | .ok number =>
          match natBelow? 0x100000000 number with
          | some id => .ok (.abandon id)
          | none => .error (.rejected .invalidAbandonId) := by
  unfold Request.ofValue
  cases Integer.read value with
  | error => rfl
  | ok number =>
    change (requireSome (natBelow? 0x100000000 number) .invalidAbandonId >>= _) = _
    simp only
    cases natBelow? 0x100000000 number with
    | some => rfl
    | none => rfl

namespace Message

variable {frame : Octets} {envelope : Envelope}

theorem decode_unbind (sound : Envelope.ofFrame frame = .ok envelope)
    (tag : envelope.operation.tag = RequestKind.unbind.tag) :
    decode frame =
      .ok { id := envelope.id, request := .unbind, controls := envelope.controls } := by
  have element : Request.ofElement envelope.operation = .ok .unbind := by
    rw [Request.ofElement, tag]
    rfl
  simp only [decode, sound, ofEnvelope, element]
  rfl

theorem decode_abandon (sound : Envelope.ofFrame frame = .ok envelope)
    (tag : envelope.operation.tag = RequestKind.abandon.tag) :
    decode frame =
      match Integer.read envelope.operation.value with
      | .error error => .error (.ofMalformation (.encoding error))
      | .ok number =>
          match natBelow? 0x100000000 number with
          | some id =>
              .ok { id := envelope.id, request := .abandon id, controls := envelope.controls }
          | none => .error (.refused envelope.abandonRefusal) := by
  have fallback : ResponseKind.forTag envelope.operation.tag = .extended := by
    rw [tag]
    rfl
  have element : Request.ofElement envelope.operation =
      Request.ofValue .abandon envelope.operation.value := by
    rw [Request.ofElement, tag]
    rfl
  simp only [decode, sound, ofEnvelope, element, fallback, Request.ofValue_abandon]
  cases read : Integer.read envelope.operation.value with
  | error error =>
    cases Integer.eq_of_read_error read
    rfl
  | ok number =>
    simp only
    cases natBelow? 0x100000000 number with
    | some id => rfl
    | none => rfl

end Message

namespace Session

variable {ω σ : Type} {frame : Octets} {envelope : Message.Envelope}

/-- Between two states nothing has been said about a frame, except that it was malformed. -/
def KeepsSilent (frame : Octets) (session session' : Session σ) : Prop :=
  session'.written = session.written ∨
    ∃ reason, Message.decode frame = .error (.malformed reason) ∧
      session'.written = session.written ++ [Response.notice .protocolError reason]

theorem takeMessage_of_unanswered {message : Message} (decoded : Message.decode frame = .ok message)
    (unanswered : message.request.kind.response? = none) (handler : Handler σ) (now : Nat)
    (session : Session σ) :
    ¬(session.takeMessage handler now frame).IsBusy ∧
      (session.takeMessage handler now frame).written = session.written := by
  obtain ⟨stage, begun⟩ := Connection.begin_of_unanswered handler now
    { session.connection with stage := .decoding } unanswered
  refine ⟨?_, takeMessage_written decoded handler now session⟩
  simp only [takeMessage, decoded, begun]
  exact settled_quiet rfl

theorem takeMessage_of_malformed {reason : String}
    (decoded : Message.decode frame = .error (.malformed reason)) (handler : Handler σ) (now : Nat)
    (session : Session σ) :
    ¬(session.takeMessage handler now frame).IsBusy ∧
      session.KeepsSilent frame (session.takeMessage handler now frame) := by
  simp only [takeMessage, decoded]
  refine ⟨reject_quiet _ _, ?_⟩
  have nonempty : Response.notice .protocolError reason ≠ [] := Response.message_ne_nil _ _
  have wrote := session.connection.writer.write_written nonempty
  unfold KeepsSilent
  simp only [reject, Connection.reject, follow_written]
  rcases wrote with ⟨-, wrote⟩ | ⟨-, wrote⟩
  · exact .inr ⟨reason, decoded, wrote⟩
  · exact .inl wrote

theorem takeMessage_of_refused {refusal : Refusal}
    (decoded : Message.decode frame = .error (.refused refusal)) (handler : Handler σ) (now : Nat)
    (session : Session σ) :
    ¬(session.takeMessage handler now frame).IsBusy ∧
      (session.KeepsSilent frame (session.takeMessage handler now frame) ↔
        ¬session.connection.writer.Takes) := by
  have wrote := session.connection.writer.write_written (Response.message_ne_nil refusal.id
    (Element.write refusal.response.tag (Response.components refusal.code "" refusal.reason)))
  simp only [takeMessage, decoded]
  refine ⟨reject_quiet _ _, ?_⟩
  unfold KeepsSilent
  simp only [reject, Connection.reject, follow_written, decoded]
  rw [written, Connection.written, Connection.finish_writer]
  rcases wrote with ⟨takes, wrote⟩ | ⟨shut, wrote⟩
  · refine ⟨fun silent => ?_, fun shut => absurd takes shut⟩
    rcases silent with same | ⟨reason, other, -⟩
    · have longer : session.written ++ [_] = session.written := wrote.symm.trans same
      simp at longer
    · cases other
  · exact ⟨fun _ => shut, fun _ => .inl wrote⟩

/-- Unbind and abandon are never answered, unless it is an abandon of a number that
is out of range and its refusal can be written. -/
theorem unanswered_iff {session : Session σ} {signal : Signal}
    (takes : session.frame? signal = some frame)
    (sound : Message.Envelope.ofFrame frame = .ok envelope)
    (tag : envelope.operation.tag = RequestKind.unbind.tag ∨
      envelope.operation.tag = RequestKind.abandon.tag)
    (handler : Handler σ) (environment : Environment ω) (now : Nat) (outside : ω) :
    ∃ session', session.step handler environment now signal outside = some (outside, session') ∧
      ¬session'.IsBusy ∧
      (session.KeepsSilent frame session' ↔
        ¬(envelope.AbandonsNothing ∧ session.connection.writer.Takes)) := by
  obtain ⟨ready, present, open_, rest, cut⟩ := frame?_eq_some takes
  have stepped : session.step handler environment now signal outside =
      some (outside, { session with buffer := rest }.takeMessage handler now frame) := by
    simp only [step, ready, next, present, open_, cut, Bool.false_eq_true, if_false]
  refine ⟨_, stepped, ?_⟩
  rcases tag with unbind | abandon
  · obtain ⟨quiet, silent⟩ := takeMessage_of_unanswered (Message.decode_unbind sound unbind) rfl
      handler now { session with buffer := rest }
    refine ⟨quiet, fun _ nothing => ?_, fun _ => .inl silent⟩
    rw [nothing.1.1] at unbind
    cases unbind
  · have decoded := Message.decode_abandon sound abandon
    cases read : Integer.read envelope.operation.value with
    | error error =>
      simp only [read] at decoded
      obtain ⟨quiet, silent⟩ :=
        takeMessage_of_malformed decoded handler now { session with buffer := rest }
      refine ⟨quiet, fun _ nothing => ?_, fun _ => silent⟩
      obtain ⟨⟨-, number, read', -⟩, -⟩ := nothing
      rw [read] at read'
      cases read'
    | ok number =>
      simp only [read] at decoded
      by_cases within : 0 ≤ number ∧ number < 0x100000000
      · have taken : natBelow? 0x100000000 number = some number.toNat := if_pos within
        rw [taken] at decoded
        obtain ⟨quiet, silent⟩ :=
          takeMessage_of_unanswered decoded rfl handler now { session with buffer := rest }
        refine ⟨quiet, fun _ nothing => ?_, fun _ => .inl silent⟩
        obtain ⟨⟨-, number', read', beyond⟩, -⟩ := nothing
        rw [read] at read'
        cases read'
        exact beyond within
      · have taken : natBelow? 0x100000000 number = none := if_neg within
        rw [taken] at decoded
        obtain ⟨quiet, silent⟩ :=
          takeMessage_of_refused decoded handler now { session with buffer := rest }
        refine ⟨quiet, silent.trans (not_congr ?_)⟩
        exact (and_iff_right ⟨abandon, number, read, within⟩).symm

/-- An abandon of message 5 is passed over. -/
theorem unanswered_iff_five :
    let frame : Octets := [0x30, 0x06, 0x02, 0x01, 0x02, 0x50, 0x01, 0x05]
    let session : Session Unit := { limit := 100, connection := { memory := () }, buffer := frame }
    let shared : Shared := { directory := ⟨[], List.forall_mem_nil _, List.nodup_nil⟩ }
    ∃ session', session.step {} Shared.environment 0 .quiet shared = some (shared, session') ∧
      session'.written = [] := by
  intro frame session shared
  have takes : session.frame? .quiet = some frame := by decide +kernel
  have sound : Message.Envelope.ofFrame frame = .ok ⟨2, ⟨RequestKind.abandon.tag, [0x05]⟩, []⟩ := by
    with_unfolding_all rfl
  have decoded : Message.decode frame = .ok ⟨2, .abandon 5, []⟩ := Message.decode_abandon sound rfl
  obtain ⟨session', stepped, -, silent⟩ := unanswered_iff takes sound (.inr rfl) {}
    Shared.environment 0 shared
  refine ⟨session', stepped, ?_⟩
  have within : ¬(Message.Envelope.AbandonsNothing ⟨2, ⟨RequestKind.abandon.tag, [0x05]⟩, []⟩ ∧
      session.connection.writer.Takes) := by
    rintro ⟨⟨-, number, read, beyond⟩, -⟩
    cases read
    exact beyond (by decide)
  rcases silent.2 within with same | ⟨reason, malformed, -⟩
  · exact same
  · rw [decoded] at malformed
    cases malformed

end Session

/-- An abandon of message −1, sound but for that number, gets an extended response. -/
theorem Service.abandon_answered :
    let frame : Octets := [0x30, 0x06, 0x02, 0x01, 0x01, 0x50, 0x01, 0xff]
    let envelope : Message.Envelope := ⟨1, ⟨RequestKind.abandon.tag, [0xff]⟩, []⟩
    let service : Service Shared Unit := {
      handler := ({} : Handler Unit), environment := Shared.environment, limit := 100, fresh := ()
      outside := { directory := ⟨[], List.forall_mem_nil _, List.nodup_nil⟩ }
      sessions := [(1, .start 100 ())] }
    let events : List Event := [.stepped 1, .received 1 frame, .stepped 1]
    Message.Envelope.ofFrame frame = .ok envelope ∧
      (∀ reason, Message.decode frame ≠ .error (.malformed reason)) ∧
      ((service.run events).session? 1).map Session.written =
        some [Response.plain 1 .extended .protocolError "Invalid abandon message ID"] := by
  intro frame envelope service events
  have sound : Message.Envelope.ofFrame frame = .ok envelope := by
    with_unfolding_all rfl
  have refused : Message.decode frame = .error (.refused envelope.abandonRefusal) :=
    Message.decode_abandon sound rfl
  refine ⟨sound, ?_, by decide +kernel⟩
  intro reason malformed
  rw [refused] at malformed
  cases malformed

end LdapService

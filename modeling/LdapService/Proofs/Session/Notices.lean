import LdapService.Proofs.Ber.Elements
import LdapService.Proofs.Session.CutOff

/-!
A notice of disconnection is the last thing that a session says. It is written where
the session ends, and a frame that is written where it goes on, the refusal of a
message, is never the same octets: a notice has a name behind its diagnostic.
-/

namespace LdapService

open Ber

namespace Response

theorem length_code (code : ResultCode) : (writeInteger Tag.enumerated code.number).length = 3 := by
  cases code with
  | _ => decide +kernel

theorem plain_ne_notice (id : Nat) (kind : ResponseKind) (code code' : ResultCode)
    (reason diagnostic : String) : plain id kind code reason ≠ notice code' diagnostic := by
  intro same
  have body := Element.write_inj same
  have operation := Element.write_append_inj (by decide +kernel) body
  have content := Element.write_inj operation
  simp only [components, List.append_assoc] at content
  have texts := (List.append_inj content ((length_code code).trans (length_code code').symm)).2
  have last := List.append_cancel_left texts
  refine Element.write_ne_append ?_ ?_ last
  · exact List.cons_ne_nil _ _
  · decide +kernel

end Response

namespace Session

variable {ω σ : Type} {session session' : Session σ} {handler : Handler σ}
  {environment : Environment ω} {now : Nat} {signal : Signal} {outside outside' : ω}
  {code : ResultCode} {diagnostic : String}

def Notifies (code : ResultCode) (diagnostic : String) (session session' : Session σ) : Prop :=
  session'.written = session.written ++ [Response.notice code diagnostic]

/-- A notice is among the frames that are written between two states. -/
def GivesNotice (code : ResultCode) (diagnostic : String) (session session' : Session σ) : Prop :=
  ∃ frames, session'.written = session.written ++ frames ∧
    Response.notice code diagnostic ∈ frames

theorem Notifies.gives (given : session.Notifies code diagnostic session') :
    session.GivesNotice code diagnostic session' :=
  ⟨_, given, List.mem_singleton_self _⟩

theorem GivesNotice.changed (given : session.GivesNotice code diagnostic session') :
    session'.written ≠ session.written := by
  obtain ⟨frames, written, mem⟩ := given
  intro same
  rw [same, List.self_eq_append_right] at written
  rw [written] at mem
  cases mem

theorem ended_of_reject {error : DecodeError} (session : Session σ)
    (given : session.GivesNotice code diagnostic (session.reject error)) :
    ∃ result, (session.reject error).phase = .ended result := by
  cases error with
  | malformed reason => exact ⟨_, rfl⟩
  | refused refusal =>
    refine absurd given fun given => ?_
    have nonempty : Response.plain refusal.id refusal.response refusal.code refusal.reason ≠ [] :=
      List.cons_ne_nil _ _
    have wrote := session.connection.writer.write_written nonempty
    have writer : (session.reject (.refused refusal)).written =
        (session.connection.writer.write (Response.plain refusal.id refusal.response refusal.code
          refusal.reason)).2.transport.written := by
      rw [reject, follow_written]
      exact congrArg (·.transport.written) (Connection.finish_writer _ _)
    rcases wrote with ⟨-, wrote⟩ | ⟨-, wrote⟩
    · obtain ⟨frames, written, mem⟩ := given
      have same := List.append_cancel_left (wrote.symm.trans (writer.symm.trans written))
      rw [← same, List.mem_singleton] at mem
      exact Response.plain_ne_notice _ _ _ _ _ _ mem.symm
    · exact given.changed (writer.trans wrote)

theorem ended_of_takeMessage {frame : Octets} (session : Session σ)
    (given : session.GivesNotice code diagnostic (session.takeMessage handler now frame)) :
    ∃ result, (session.takeMessage handler now frame).phase = .ended result := by
  cases decoded : Message.decode frame with
  | error error =>
    simp only [takeMessage, decoded] at given ⊢
    exact ended_of_reject { session with connection.stage := .decoding } given
  | ok message => exact absurd (takeMessage_written decoded handler now session) given.changed

/-- A session that gives notice has ended. -/
theorem ended_of_notice (between : ¬session.IsBusy)
    (steps : session.step handler environment now signal outside = some (outside', session'))
    (given : session.GivesNotice code diagnostic session') :
    ∃ result, session'.phase = .ended result := by
  unfold step at steps
  split at steps
  · cases steps
    unfold next at given ⊢
    split
    · exact ⟨_, rfl⟩
    · next present =>
      split
      · exact ⟨_, rfl⟩
      · next open_ =>
        rw [if_neg present, if_neg open_] at given
        split
        · next broken =>
          rw [broken] at given
          exact ended_of_reject session given
        · next nothing =>
          rw [nothing] at given
          exact absurd rfl given.changed
        · next frame rest cut =>
          rw [cut] at given
          exact ended_of_takeMessage { session with buffer := rest } given
  · split at steps
    · cases steps
    · cases steps
      exact ⟨_, rfl⟩
  · next task busy => exact absurd ⟨task, busy⟩ between
  · cases steps
    exact absurd (follow_written _ _) given.changed
  · cases steps
  · cases steps

theorem ended_of_advance (between : ¬session.IsBusy)
    (given : session.GivesNotice code diagnostic
      (session.advance handler environment now signal outside)) :
    ∃ result, (session.advance handler environment now signal outside).phase = .ended result := by
  unfold advance at given ⊢
  cases steps : session.step handler environment now signal outside with
  | none =>
    rw [steps] at given
    exact absurd rfl given.changed
  | some next =>
    rw [steps] at given
    exact ended_of_notice between steps given

end Session

namespace Service

variable {ω σ : Type} {number : Nat} {service : Service ω σ} {session : Session σ} {event : Event}
  {code : ResultCode}

theorem become_written (other : event ≠ .stepped number) (service : Service ω σ)
    (session : Session σ) : (service.become number event session).written = session.written := by
  by_cases address : event.number? = some number
  · rw [become_of_self address]
    cases event with
    | received | hungUp | readFailed =>
      refine congrArg Transport.written ?_
      apply Session.read_transport
      rfl
    | transportFails _ operation =>
      cases operation with
      | write => rfl
      | flush => rfl
      | shutDown => rfl
    | stepped =>
      cases address
      exact absurd rfl other
    | woken => exact session.wake_written
    | dropped =>
      change session.drop.written = session.written
      unfold Session.drop
      split
      · rfl
      · rfl
      · rfl
    | connected | signalled | elapsed => rfl
  · rw [become_of_other address]

def GivesNotice (number : Nat) (service : Service ω σ) (code : ResultCode) (event : Event) :
    Prop :=
  ∃ session session' diagnostic, service.session? number = some session ∧ ¬session.IsBusy ∧
    (service.apply event).session? number = some session' ∧
      session.GivesNotice code diagnostic session'

theorem GivesNotice.ended (given : service.GivesNotice number code event) :
    ∃ session result, (service.apply event).session? number = some session ∧
      session.phase = .ended result := by
  obtain ⟨session, session', diagnostic, found, between, found', given⟩ := given
  refine ⟨session', ?_⟩
  rw [session?_apply found] at found' ⊢
  cases found'
  by_cases step : event = .stepped number
  · rw [step, become_of_self rfl] at given ⊢
    obtain ⟨result, ended⟩ := Session.ended_of_advance between given
    exact ⟨result, rfl, ended⟩
  · exact absurd (become_written step service session) given.changed

/-- After a notice nothing more is written, another notice least of all. -/
theorem GivesNotice.last (given : service.GivesNotice number code event) (later : List Event) :
    (((service.apply event).run later).session? number).map Session.written =
        ((service.apply event).session? number).map Session.written ∧
      ∀ code' next, ¬((service.apply event).run later).GivesNotice number code' next := by
  obtain ⟨session, result, found, ended⟩ := given.ended
  obtain ⟨session', found', ended', written⟩ := run_keeps
    (fun other => other.phase = .ended result ∧ other.written = session.written)
    (fun service event _ ⟨ended, written⟩ =>
      have ⟨ended', same⟩ := become_ended ended service event
      ⟨ended', same.trans written⟩) found ⟨ended, rfl⟩ later
  refine ⟨by rw [found', found, Option.map_some, Option.map_some, written], ?_⟩
  rintro code' next ⟨before, after, diagnostic, foundBefore, -, foundAfter, given⟩
  rw [found'] at foundBefore
  cases foundBefore
  rw [session?_apply found'] at foundAfter
  cases foundAfter
  exact given.changed (become_ended ended' _ next).2

end Service

end LdapService

import LdapService.Proofs.Session.Calm
import LdapService.Proofs.Session.Upholds

/-!
What any event makes of a session, calm or not. An event for the connection acts on
its session, all others leave it as it is; and nothing acts on a session that has
ended, but for errors that wait at its transport and strike no more.
-/

namespace LdapService

namespace Session

variable {ω σ : Type}

def frame? (signal : Signal) (session : Session σ) : Option Octets :=
  match session.phase with
  | .ready =>
      if session.connection.writer.peerGone || signal = .shutdown then none
      else
        match Frame.split session.limit session.buffer with
        | .ok (some (frame, _)) => some frame
        | _ => none
  | _ => none

def uptake? (signal : Signal) (session : Session σ) : Option (Except DecodeError Message) :=
  (session.frame? signal).map Message.decode

def advance (handler : Handler σ) (environment : Environment ω) (now : Nat) (signal : Signal)
    (outside : ω) (session : Session σ) : Session σ :=
  (session.step handler environment now signal outside).elim session (·.2)

variable {signal : Signal} {session : Session σ}

theorem frame?_eq_some {frame : Octets} (takes : session.frame? signal = some frame) :
    session.phase = .ready ∧ session.connection.writer.peerGone = false ∧ signal ≠ .shutdown ∧
      ∃ rest, Frame.split session.limit session.buffer = .ok (some (frame, rest)) := by
  unfold frame? at takes
  split at takes
  · next ready =>
    split at takes
    · cases takes
    · next open_ =>
      split at takes
      · next cut =>
        cases takes
        simp only [Bool.or_eq_true, decide_eq_true_eq, not_or, Bool.not_eq_true] at open_
        exact ⟨ready, open_.1, open_.2, _, cut⟩
      · cases takes
  · cases takes

theorem frame?_of_ne_ready (busy : session.phase ≠ .ready) : session.frame? signal = none := by
  unfold frame?
  split
  · next ready => exact absurd ready busy
  · rfl

theorem frame?_of_shutdown (session : Session σ) : session.frame? .shutdown = none := by
  cases phase : session.phase with
  | ready => simp [frame?, phase]
  | idle | busy | settled | ended | dropped => exact frame?_of_ne_ready (by simp [phase])

theorem uptake?_of_stuck {handler : Handler σ} {environment : Environment ω} {now : Nat}
    {outside : ω} (stuck : session.step handler environment now signal outside = none) :
    session.uptake? signal = none := by
  have unready : session.phase ≠ .ready := by
    intro ready
    simp [step, ready] at stuck
  rw [uptake?, frame?_of_ne_ready unready, Option.map_none]

theorem step_of_ended {result : Except ServiceError Unit} (ended : session.phase = .ended result)
    (handler : Handler σ) (environment : Environment ω) (now : Nat) (signal : Signal)
    (outside : ω) : session.step handler environment now signal outside = none := by
  simp only [step, ended]

theorem not_reading_of_ended {result : Except ServiceError Unit}
    (ended : session.phase = .ended result) : session.isReading = false := by
  simp [isReading, ended]

end Session

namespace Service

variable {ω σ : Type} {service : Service ω σ} {number : Nat} {session : Session σ} {event : Event}

def act (service : Service ω σ) (number : Nat) (session : Session σ) : Event → Session σ
  | .received _ octets => session.receive octets
  | .hungUp _ => session.hangUp
  | .readFailed _ error => session.readFailed error
  | .transportFails _ operation error => session.failTransport operation error
  | .stepped _ => session.advance (service.handler number) service.environment service.now
      service.signal service.outside
  | .woken _ => session.wake
  | .dropped _ => session.drop
  | .connected _ | .signalled _ | .elapsed _ => session

/-- What an event makes of the session with a number. -/
def become (number : Nat) (service : Service ω σ) (event : Event) (session : Session σ) :
    Session σ :=
  if event.number? = some number then service.act number session event else session

theorem become_of_self (address : event.number? = some number) (service : Service ω σ)
    (session : Session σ) :
    service.become number event session = service.act number session event := if_pos address

theorem become_of_other (other : event.number? ≠ some number) (service : Service ω σ)
    (session : Session σ) : service.become number event session = session := if_neg other

theorem session?_apply (found : service.session? number = some session) (event : Event) :
    (service.apply event).session? number = some (service.become number event session) := by
  by_cases address : event.number? = some number
  · rw [become_of_self address]
    cases event with
    | connected =>
      cases address
      simp only [apply, connect, found, act]
    | stepped =>
      cases address
      exact session?_stepped found
    | received | hungUp | readFailed | transportFails | woken | dropped =>
      cases address
      simp only [apply, session?_alter_self, found, Option.map_some, act]
    | signalled | elapsed => cases address
  · rw [become_of_other address, session?_apply_of_other address, found]

theorem run_keeps_with (kept : Session σ → Prop)
    (keeps : ∀ (other : Service ω σ) (event : Event) (session : Session σ),
      other.handler = service.handler → kept session → kept (other.become number event session))
    (found : service.session? number = some session) (start : kept session)
    (events : List Event) :
    ∃ session', (service.run events).session? number = some session' ∧ kept session' := by
  induction events generalizing service session with
  | nil => exact ⟨session, found, start⟩
  | cons event rest ih =>
    refine ih ?_ (session?_apply found event) (keeps service event session rfl start)
    intro other event session same
    exact keeps other event session (same.trans (handler_apply _ _))

theorem run_keeps (kept : Session σ → Prop)
    (keeps : ∀ (service : Service ω σ) (event : Event) (session : Session σ),
      kept session → kept (service.become number event session))
    (found : service.session? number = some session) (start : kept session)
    (events : List Event) :
    ∃ session', (service.run events).session? number = some session' ∧ kept session' :=
  run_keeps_with kept (fun other event session _ => keeps other event session) found start events

section Ended

variable {result : Except ServiceError Unit}

theorem become_of_ended (ended : session.phase = .ended result)
    (untouched : ∀ operation error, event ≠ .transportFails number operation error)
    (service : Service ω σ) : service.become number event session = session := by
  have still := Session.not_reading_of_ended ended
  by_cases address : event.number? = some number
  · rw [become_of_self address]
    cases event with
    | received => simp [act, Session.receive, still]
    | hungUp => simp [act, Session.hangUp, still]
    | readFailed => simp [act, Session.readFailed, still]
    | transportFails =>
      cases address
      exact absurd rfl (untouched _ _)
    | stepped => simp [act, Session.advance, Session.step_of_ended ended]
    | woken => simp [act, Session.wake, ended]
    | dropped => simp [act, Session.drop, ended]
    | connected | signalled | elapsed => rfl
  · exact become_of_other address service session

theorem become_ended (ended : session.phase = .ended result) (service : Service ω σ)
    (event : Event) :
    (service.become number event session).phase = .ended result ∧
      (service.become number event session).connection.writer.transport.written =
        session.connection.writer.transport.written := by
  by_cases fails : ∃ operation error, event = .transportFails number operation error
  · obtain ⟨operation, error, rfl⟩ := fails
    rw [become_of_self rfl]
    refine ⟨ended, ?_⟩
    cases operation with
    | write => rfl
    | flush => rfl
    | shutDown => rfl
  · rw [become_of_ended ended fun operation error same => fails ⟨operation, error, same⟩]
    exact ⟨ended, rfl⟩

end Ended

def uptakeOf? (number : Nat) (service : Service ω σ) : Event → Option (Except DecodeError Message)
  | .stepped other =>
      if other = number then (service.session? number).bind (Session.uptake? service.signal)
      else none
  | _ => none

def uptakes (number : Nat) (service : Service ω σ) :
    List Event → List (Except DecodeError Message)
  | [] => []
  | event :: rest =>
      (service.uptakeOf? number event).toList ++ (service.apply event).uptakes number rest

theorem uptakeOf?_of_ne (other : event.number? ≠ some number) :
    service.uptakeOf? number event = none := by
  unfold uptakeOf?
  split
  · next different =>
    have ne : different ≠ number := fun same => other (congrArg some same)
    rw [if_neg ne]
  · rfl

end Service

end LdapService

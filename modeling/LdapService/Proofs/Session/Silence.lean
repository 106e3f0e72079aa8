import LdapService.Directory.Shared
import LdapService.Proofs.Session.Endings

/-!
Silence after the transport is gone. However a connection loses its transport, whatever
its handler goes on to do and whatever else happens, nothing more is started on the
stream; and left to run, its session ends.
-/

namespace LdapService.Service

variable {ω σ : Type} {number : Nat} {service : Service ω σ} {event : Event}

def Strikes (number : Nat) (service : Service ω σ) (event : Event) : Prop :=
  ∃ session session', service.session? number = some session ∧
    (service.apply event).session? number = some session' ∧
      session.transport.Struck session'.transport

/-- An event in which a connection loses its transport: a read that finds the end of the
stream, a read that fails, or a write or a flush that fails. -/
inductive LosesTransport (number : Nat) (service : Service ω σ) : Event → Prop
  | endOfStream {session : Session σ} (found : service.session? number = some session)
      (reads : session.isReading = true) : LosesTransport number service (.hungUp number)
  | readError {session : Session σ} (found : service.session? number = some session)
      (reads : session.isReading = true) (error : IoError) :
      LosesTransport number service (.readFailed number error)
  | writeError (struck : service.Strikes number (.stepped number)) :
      LosesTransport number service (.stepped number)

/-- A connection that has lost its transport is cut off, but not by being dropped. -/
theorem LosesTransport.isCutOff (lost : service.LosesTransport number event) :
    ∃ session, (service.apply event).session? number = some session ∧ session.IsCutOff ∧
      session.phase ≠ .dropped := by
  have present {session : Session σ} (reads : session.isReading = true) :
      session.phase ≠ .dropped := by
    intro dropped
    simp [Session.isReading, dropped] at reads
  cases lost with
  | @endOfStream session found reads =>
    have pace : session.KeepsPace session.hangUp := by
      apply Session.read_keepsPace (present reads)
      · rfl
      · rfl
    rw [session?_apply found, become_of_self rfl]
    exact ⟨_, rfl, Session.hangUp_isCutOff reads, pace.kept⟩
  | @readError session found reads error =>
    have pace : session.KeepsPace (session.readFailed error) := by
      apply Session.read_keepsPace (present reads)
      · rfl
      · rfl
    rw [session?_apply found, become_of_self rfl]
    exact ⟨_, rfl, Session.readFailed_isCutOff reads error, pace.kept⟩
  | writeError struck =>
    obtain ⟨session, session', found, found', struck⟩ := struck
    refine ⟨session', found', ?_⟩
    rw [session?_stepped found] at found'
    cases found'
    cases steps : session.step (service.handler number) service.environment service.now
        service.signal service.outside with
    | none =>
      rw [steps] at struck
      exact absurd struck session.transport.waitsAlike_self.not_struck
    | some next =>
      rw [steps] at struck
      exact ⟨Session.step_falls steps struck, Session.step_kept steps⟩

structure IsSilent (number : Nat) (service : Service ω σ) (frames : List Octets) : Prop where
  written : (service.session? number).map Session.written = some frames
  calm : ∀ event, ¬service.Strikes number event
  uptakes : ∀ event, service.uptakeOf? number event = none
  sendings : ∀ event entry outcome, service.turnOf? number event = some (.sent entry outcome) →
    outcome = .error SearchStream.connectionClosed

theorem isSilent_of_isCutOff {session : Session σ} (found : service.session? number = some session)
    (cutOff : session.IsCutOff) : service.IsSilent number session.written := by
  refine ⟨by rw [found]; rfl, ?_, ?_, ?_⟩
  · rintro event ⟨before, after, found', apart, struck⟩
    rw [found] at found'
    cases found'
    rw [session?_apply found] at apart
    cases apart
    exact (become_isSilentTo cutOff service event).calm struck
  · intro event
    unfold uptakeOf?
    split
    · split
      · rw [found, Option.bind_some, Session.uptake?, cutOff.frame?_eq_none, Option.map_none]
      · rfl
    · rfl
  · intro event entry outcome turn
    unfold turnOf? at turn
    split at turn
    · split at turn
      · rw [found, Option.bind_some] at turn
        exact cutOff.turn?_sent turn
      · cases turn
    · cases turn

/-- Once a connection has lost its transport, it stays silent in every run: no frame is
started, no error strikes for want of a write or flush, no message is taken up, and all
that its handler still sends is refused as on a closed connection. And whatever the
schedule, if it is fair, the session ends: handlers are well-founded programs, so the one
under way returns, if it is let go on where it waits. Of one that never returns the first
part holds for as far as it is followed. -/
theorem silent_once_lost (lost : service.LosesTransport number event) :
    ∃ frames, (∀ later : List Event, ((service.apply event).run later).IsSilent number frames) ∧
      ∀ schedule, IsFair number schedule →
        ∃ count session result,
          ((service.apply event).upTo schedule count).session? number = some session ∧
            session.phase = .ended result := by
  obtain ⟨session, found, cutOff, kept⟩ := lost.isCutOff
  refine ⟨session.written, ?_, ?_⟩
  · intro later
    obtain ⟨session', found', cutOff', written⟩ := run_keeps
      (fun other => other.IsCutOff ∧ other.written = session.written)
      (fun service event _ ⟨cutOff, written⟩ =>
        have silent := become_isSilentTo cutOff service event
        ⟨silent.cutOff, silent.written.trans written⟩) found ⟨cutOff, rfl⟩ later
    rw [← written]
    exact isSilent_of_isCutOff found' cutOff'
  · intro schedule fair
    exact ends_of_fair fair found (.inr cutOff) kept

/-- A client that hangs up on a search whose handler does not mind: of two entries, one
is sent before, and the session ends. -/
theorem silent_once_lost_search :
    let search : Octets := [0x30, 0x1f, 0x02, 0x01, 0x01, 0x63, 0x1a, 0x04, 0x03, 0x61, 0x3d, 0x31,
      0x0a, 0x01, 0x02, 0x0a, 0x01, 0x00, 0x02, 0x01, 0x00, 0x02, 0x01, 0x00, 0x01, 0x01, 0x00,
      0x87, 0x02, 0x63, 0x6e, 0x30, 0x00]
    let handler : Handler Unit := {
      search := fun request => do
        discard <| Streaming.ask (.send { dn := request.base })
        Operation.wait
        discard <| Streaming.ask (.send { dn := request.base }) }
    let start : Service Shared Unit := {
      handler, environment := Shared.environment, limit := 100, fresh := ()
      outside := { directory := ⟨[], List.forall_mem_nil _, List.nodup_nil⟩ }
      sessions := [(1, .start 100 ())] }
    let searching := start.run [.stepped 1, .received 1 search, .stepped 1, .stepped 1]
    let lost := searching.apply (.hungUp 1)
    let schedule (count : Nat) : Event := if count % 2 = 0 then .stepped 1 else .woken 1
    (∃ frames, frames.length = 1 ∧ ∀ later : List Event, (lost.run later).IsSilent 1 frames) ∧
      ∃ count session result, (lost.upTo schedule count).session? 1 = some session ∧
        session.phase = .ended result := by
  intro search handler start searching lost schedule
  have reading : (searching.session? 1).map Session.isReading = some true := by decide +kernel
  obtain ⟨session, found, reads⟩ := Option.map_eq_some_iff.1 reading
  obtain ⟨frames, silent, ends⟩ := silent_once_lost (.endOfStream found reads)
  refine ⟨⟨frames, ?_, silent⟩, ends schedule ⟨?_, ?_, ?_⟩⟩
  · have count : (lost.session? 1).map (·.written.length) = some 1 := by decide +kernel
    have written := congrArg (Option.map List.length) (silent []).written
    rw [Option.map_map] at written
    exact Option.some.inj (written.symm.trans count)
  · exact fun start => ⟨2 * start, by omega, by simp [schedule]⟩
  · exact fun start => ⟨2 * start + 1, by omega, by simp [schedule, Nat.add_mod]⟩
  · intro count
    by_cases even : count % 2 = 0
    · simp [schedule, even]
    · simp [schedule, even]

end LdapService.Service

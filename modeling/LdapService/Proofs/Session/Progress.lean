import LdapService.Proofs.Session.Pace

/-!
A connection that nothing from outside ends is served as long as there is anything to
serve. Its session rests only when it needs octets, when its handler waits or when it
has ended; so every calm run goes on until it has brought all that the client sends.
-/

namespace LdapService

namespace Session

variable {ω σ : Type} {handler : Handler σ} {environment : Environment ω}

/-- Not dropped, and idle only for want of octets. -/
structure IsAttentive (session : Session σ) : Prop where
  kept : session.phase ≠ .dropped
  needs : session.phase = .idle → session.NeedsMore

theorem Move.attentive {meddles : ω → ω → Prop} {octets : Octets} {turn : Option Turn}
    {woken : Nat} {state next : ω × Session σ}
    (moved : Move handler environment meddles octets turn woken state next)
    (h : state.2.IsAttentive) : next.2.IsAttentive := by
  cases moved with
  | still session meddled => exact h
  | @hear octets outside session some reads =>
    rw [receive_eq_feed some reads]
    refine ⟨?_, fun idle => absurd idle (feed_awake _ _)⟩
    by_cases idle : session.phase = .idle
    · simp [feed_of_idle idle]
    · rw [feed_of_not_idle idle]
      exact h.kept
  | step steps =>
    rcases step_feed steps [] with ⟨-, -, -, needs⟩ | ⟨isOn, -⟩
    · exact ⟨by simp [needs.idle], fun _ => needs⟩
    · exact ⟨isOn.kept, fun idle => absurd idle isOn.awake⟩
  | @wake outside session waits =>
    obtain ⟨task, rest, busy, -⟩ := exists_of_waiting waits
    exact ⟨by simp [Session.wake, busy], by simp [Session.wake, busy]⟩

theorem NeedsMore.reads {session : Session σ} (h : session.NeedsMore) :
    session.isReading = true := by
  simp [isReading, h.present, h.idle]

theorem IsAttentive.at_rest {now : Nat} {outside : ω} {session : Session σ}
    (h : session.IsAttentive) (awake : session.isWaiting = false)
    (stuck : session.step handler environment now .quiet outside = none) :
    session.NeedsMore ∨ ∃ result, session.phase = .ended result := by
  cases phase : session.phase with
  | ready => simp [step, phase] at stuck
  | idle => exact .inl (h.needs phase)
  | busy task =>
    cases program : task.program with
    | wait rest => simp [isWaiting, phase, program] at awake
    | done | crash | ask => simp [step, phase, Task.step, program] at stuck
  | settled flow => simp [step, phase] at stuck
  | ended result => exact .inr ⟨result, rfl⟩
  | dropped => exact absurd phase h.kept

end Session

namespace Service

variable {ω σ : Type} {service : Service ω σ} {number : Nat} {stream : Octets}

def Delivers (service : Service ω σ) (number : Nat) (stream : Octets) (events : List Event) :
    Prop :=
  service.heard number events <+: stream ∧
    ∃ session, (service.run events).session? number = some session ∧
      (session.phase = .idle ∧ service.heard number events = stream ∨
        ∃ result, session.phase = .ended result)

section Run

variable (opened : service.session? number = some (.start service.limit service.fresh))
  (quiet : service.signal = .quiet)

include opened quiet

theorem run_attentive {events : List Event} (calm : ∀ event ∈ events, event.IsCalm number) :
    (service.run events).signal = .quiet ∧
      ∃ session, (service.run events).session? number = some session ∧ session.IsAttentive := by
  have start : (Session.start service.limit service.fresh).IsAttentive :=
    ⟨by simp [Session.start], by simp [Session.start]⟩
  exact run_of_moves (fun _ _ => True) (fun _ => trivial) (fun _ _ _ state => state.2.IsAttentive)
    (fun held moved => moved.attentive held) calm (fun _ _ _ _ _ => trivial) quiet opened start

theorem run_to_rest {events : List Event} (calm : ∀ event ∈ events, event.IsCalm number) :
    ∃ own : List Event, (∀ event ∈ own, event.IsOwn number) ∧
      service.heard number (events ++ own) = service.heard number events ∧
      ∃ session, (service.run (events ++ own)).session? number = some session ∧
        (session.NeedsMore ∨ ∃ result, session.phase = .ended result) := by
  obtain ⟨-, before, found, -⟩ := run_attentive opened quiet calm
  obtain ⟨own, isOwn, session, found, awake, stuck⟩ := exists_run_to_rest (service.run events) found
  have heard : service.heard number (events ++ own) = service.heard number events := by
    rw [heard_append, heard_of_own isOwn, List.append_nil]
  have calm' : ∀ event ∈ events ++ own, event.IsCalm number :=
    List.forall_mem_append.2 ⟨calm, fun event mem => (isOwn event mem).calm⟩
  obtain ⟨quiet', session', found', attentive⟩ := run_attentive opened quiet calm'
  rw [run_append] at quiet' found'
  rw [quiet'] at stuck
  cases found.symm.trans found'
  refine ⟨own, isOwn, heard, session, ?_, attentive.at_rest awake stuck⟩
  rw [run_append, found]

theorem exists_delivers {events : List Event} (calm : ∀ event ∈ events, event.IsCalm number)
    (within : service.heard number events <+: stream) :
    ∃ more : List Event,
      (∀ event ∈ more, event.IsOwn number ∨ ∃ octets, event = .received number octets) ∧
      service.Delivers number stream (events ++ more) := by
  obtain ⟨own, isOwn, heard, session, found, rests⟩ := run_to_rest opened quiet calm
  rcases rests with needs | ended
  · obtain ⟨rest, whole⟩ := within
    have hears : (service.run (events ++ own)).heardOf number (.received number rest) = rest := by
      simp [heardOf, found, needs.reads]
    have heard' : service.heard number (events ++ own ++ [.received number rest]) = stream := by
      rw [heard_append, heard, Service.heard, hears, Service.heard, List.append_nil, whole]
    have calm' : ∀ event ∈ events ++ own ++ [.received number rest], event.IsCalm number := by
      refine List.forall_mem_append.2 ⟨?_, List.forall_mem_singleton.2 trivial⟩
      exact List.forall_mem_append.2 ⟨calm, fun event mem => (isOwn event mem).calm⟩
    obtain ⟨own', isOwn', heard'', session', found', rests'⟩ := run_to_rest opened quiet calm'
    have all : events ++ (own ++ [.received number rest] ++ own') =
        events ++ own ++ [.received number rest] ++ own' := by
      simp only [List.append_assoc]
    have hears' := heard''.trans heard'
    refine ⟨own ++ [.received number rest] ++ own', ?_, ?_⟩
    · intro event mem
      rcases List.mem_append.1 mem with first | last
      · rcases List.mem_append.1 first with first | between
        · exact .inl (isOwn event first)
        · exact .inr ⟨rest, List.mem_singleton.1 between⟩
      · exact .inl (isOwn' event last)
    · rw [all]
      refine ⟨hears' ▸ List.prefix_rfl, session', found', ?_⟩
      rcases rests' with needs | ended
      · exact .inl ⟨needs.idle, hears'⟩
      · exact .inr ended
  · exact ⟨own, fun event mem => .inl (isOwn event mem), heard ▸ within, session, found, .inr ended⟩

end Run

end Service

end LdapService

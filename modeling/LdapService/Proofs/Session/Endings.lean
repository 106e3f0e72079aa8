import Mathlib.Order.WellFounded
import LdapService.Proofs.Session.CutOff
import LdapService.Proofs.Session.Pace

/-!
Sessions that have to end: those of a server that shuts down, and those that are cut
off from their client. Neither takes up another message, so all that is left is the
operation under way, and its handler comes to an end. A schedule that steps a session
and wakes its handler again and again brings it there, whatever else happens.
-/

namespace LdapService

namespace Session

variable {ω σ : Type} {session session' : Session σ} {handler : Handler σ}
  {environment : Environment ω} {now : Nat} {signal : Signal} {outside outside' : ω}

/-- Bound to end: it takes up no more messages. -/
def IsClosing (signal : Signal) (session : Session σ) : Prop :=
  signal = .shutdown ∨ session.IsCutOff

def stage (session : Session σ) : Nat :=
  match session.phase with
  | .busy _ => 3
  | .settled _ => 2
  | .ready | .idle => 1
  | .ended _ | .dropped => 0

/-- What is left to do when no more messages are taken up. -/
def remaining (session : Session σ) : Nat × Program streaming σ (Except Failure Reply) :=
  (session.stage, session.program)

def IsLess (less more : Nat × Program streaming σ (Except Failure Reply)) : Prop :=
  Prod.Lex (· < ·) Program.Follows less more

theorem isLess_wellFounded : WellFounded (IsLess (σ := σ)) :=
  (Prod.lex ⟨_, Nat.lt_wfRel.wf⟩ inferInstance).wf

theorem isLess_of_stage (less : session'.stage < session.stage) :
    IsLess session'.remaining session.remaining := .left _ _ less

theorem stage_of_busy {task : Task σ} (busy : session.phase = .busy task) : session.stage = 3 := by
  rw [stage, busy]

theorem stage_of_ended {result : Except ServiceError Unit} (ended : session.phase = .ended result) :
    session.stage = 0 := by
  rw [stage, ended]

theorem stage_follow (flow : Flow) (session : Session σ) : (session.follow flow).stage < 2 := by
  cases flow with
  | proceed => exact Nat.one_lt_two
  | close => exact Nat.zero_lt_two

theorem ended_of_stage (kept : session.phase ≠ .dropped) (through : session.stage = 0) :
    ∃ result, session.phase = .ended result := by
  cases phase : session.phase with
  | ended result => exact ⟨result, rfl⟩
  | dropped => exact absurd phase kept
  | ready | idle | busy | settled => simp [stage, phase] at through

theorem isWaiting_iff : session.isWaiting = true ↔ ∃ rest, session.program = .wait rest := by
  constructor
  · intro waits
    obtain ⟨task, rest, busy, waiting⟩ := exists_of_waiting waits
    exact ⟨rest, by rw [program, busy]; exact waiting⟩
  · rintro ⟨rest, waiting⟩
    unfold program at waiting
    split at waiting
    · next busy => simp only [isWaiting, busy, waiting]
    · cases waiting

theorem isWaiting_congr (same : session'.remaining = session.remaining) :
    session'.isWaiting = true ↔ session.isWaiting = true := by
  have program : session'.program = session.program := congrArg Prod.snd same
  rw [isWaiting_iff, isWaiting_iff, program]

theorem next_of_closing (closing : session.IsClosing signal) (ready : session.phase = .ready)
    (handler : Handler σ) (now : Nat) :
    ∃ result, (session.next handler now signal).phase = .ended result := by
  unfold next
  rcases closing with shutdown | cutOff
  · split
    · exact ⟨_, rfl⟩
    · exact ⟨_, rfl⟩
  · rw [if_pos (cutOff.seen (.inl ready))]
    exact ⟨_, rfl⟩

theorem step_kept
    (steps : session.step handler environment now signal outside = some (outside', session')) :
    session'.phase ≠ .dropped := by
  unfold Session.step at steps
  split at steps
  · cases steps
    unfold next
    split
    · nofun
    · split
      · nofun
      · split
        · exact (reject_isOn _ _).kept
        · nofun
        · exact (takeMessage_isOn _ _ _ _).kept
  · split at steps
    · cases steps
    · cases steps
      nofun
  · split at steps
    · cases steps
    · cases steps
      nofun
    · cases steps
      nofun
  · cases steps
    exact (follow_isOn _ _).kept
  · cases steps
  · cases steps

theorem IsClosing.step (closing : session.IsClosing signal)
    (steps : session.step handler environment now signal outside = some (outside', session')) :
    IsLess session'.remaining session.remaining := by
  unfold Session.step at steps
  split at steps
  · next ready =>
    obtain ⟨result, ended⟩ := next_of_closing closing ready handler now
    cases steps
    refine isLess_of_stage ?_
    rw [stage_of_ended ended, stage, ready]
    exact Nat.zero_lt_one
  · next idle =>
    split at steps
    · cases steps
    · cases steps
      refine isLess_of_stage ?_
      rw [stage_of_ended rfl, stage, idle]
      exact Nat.zero_lt_one
  · next task busy =>
    split at steps
    · cases steps
    · next next _ connection stepped =>
      cases steps
      have goesOn := Task.follows_of_step stepped
      unfold remaining
      rw [stage_of_busy rfl, stage_of_busy busy]
      refine .right _ ?_
      rw [program, program, busy]
      exact goesOn
    · cases steps
      refine isLess_of_stage ?_
      rw [stage_of_busy busy]
      exact Nat.lt_succ_self 2
  · next flow settled =>
    cases steps
    refine isLess_of_stage (Nat.lt_of_lt_of_eq (stage_follow _ _) ?_)
    rw [stage, settled]
  · cases steps
  · cases steps

theorem IsClosing.exists_step (closing : session.IsClosing signal)
    (awake : session.isWaiting ≠ true) (before : session.stage ≠ 0) (handler : Handler σ)
    (environment : Environment ω) (now : Nat)
    (outside : ω) :
    ∃ next, session.step handler environment now signal outside = some next := by
  cases phase : session.phase with
  | ready => exact ⟨_, step_of_ready phase _ _ _ _ _⟩
  | idle =>
    rcases closing with shutdown | cutOff
    · refine ⟨(outside, session.finishShutdown), ?_⟩
      simp [Session.step, phase, shutdown]
    · exact absurd phase cutOff.awake
  | busy task =>
    cases program : task.program with
    | wait => simp [isWaiting, phase, program] at awake
    | done | crash | ask => simp [Session.step, phase, Task.step, program]
  | settled flow => exact ⟨(outside, session.follow flow), by simp only [Session.step, phase]⟩
  | ended | dropped => simp [stage, phase] at before

theorem IsClosing.advance_isLess (closing : session.IsClosing signal)
    (awake : session.isWaiting ≠ true) (before : session.stage ≠ 0) (handler : Handler σ)
    (environment : Environment ω) (now : Nat) (outside : ω) :
    IsLess (session.advance handler environment now signal outside).remaining
      session.remaining := by
  obtain ⟨next, steps⟩ := closing.exists_step awake before handler environment now outside
  rw [advance, steps]
  exact closing.step steps

theorem wake_isLess (waits : session.isWaiting = true) :
    IsLess session.wake.remaining session.remaining := by
  obtain ⟨task, rest, busy, -⟩ := exists_of_waiting waits
  have same : session.wake.stage = session.stage := by simp only [wake, busy, stage]
  rw [remaining, remaining, same]
  exact .right _ (wake_decreases waits).2

structure KeepsPace (session session' : Session σ) : Prop where
  kept : session'.phase ≠ .dropped
  remaining : session'.remaining = session.remaining ∨
    IsLess session'.remaining session.remaining

section Pace

variable (kept : session.phase ≠ .dropped)

include kept

theorem still_keepsPace : session.KeepsPace session := ⟨kept, .inl rfl⟩

theorem read_keepsPace (changed : Session σ) (phase : changed.phase = session.phase)
    (memory : changed.connection.memory = session.connection.memory) (reads : Bool) :
    session.KeepsPace (if reads then changed.awaken else session) := by
  split
  · unfold awaken
    split
    · next idle =>
      rw [phase] at idle
      exact ⟨nofun, .inl (by simp only [remaining, stage, program, idle, memory])⟩
    · refine ⟨phase ▸ kept, .inl ?_⟩
      simp only [remaining, stage, program, phase, memory]
  · exact still_keepsPace kept

theorem wake_keepsPace : session.KeepsPace session.wake := by
  by_cases waits : session.isWaiting = true
  · obtain ⟨task, rest, busy, waiting⟩ := exists_of_waiting waits
    exact ⟨by simp [wake, busy], .inr (wake_isLess waits)⟩
  · rw [wake_of_not_waiting waits]
    exact still_keepsPace kept

theorem IsClosing.advance_keepsPace (closing : session.IsClosing signal) (handler : Handler σ)
    (environment : Environment ω) (now : Nat) (outside : ω) :
    session.KeepsPace (session.advance handler environment now signal outside) := by
  unfold advance
  cases steps : session.step handler environment now signal outside with
  | none => exact still_keepsPace kept
  | some next => exact ⟨step_kept steps, .inr (closing.step steps)⟩

end Pace

end Session

namespace Service

variable {ω σ : Type} {number : Nat} {service : Service ω σ} {session : Session σ} {event : Event}

theorem signal_apply_of_shutdown (shutdown : service.signal = .shutdown) (event : Event) :
    (service.apply event).signal = .shutdown := by
  cases address : event.number? with
  | some other => rw [(clock_apply address service).2, shutdown]
  | none =>
    cases event with
    | signalled signal =>
      rw [apply, heed, if_neg (by simp [shutdown]), shutdown]
    | elapsed => exact shutdown
    | _ => cases address

theorem become_isClosing (closing : session.IsClosing service.signal) (event : Event) :
    (service.become number event session).IsClosing (service.apply event).signal :=
  closing.imp (fun shutdown => signal_apply_of_shutdown shutdown event)
    fun cutOff => (become_isSilentTo cutOff service event).cutOff

theorem become_keepsPace (closing : session.IsClosing service.signal)
    (kept : session.phase ≠ .dropped) (goesOn : event ≠ .dropped number) :
    session.KeepsPace (service.become number event session) := by
  have still := Session.still_keepsPace kept
  by_cases address : event.number? = some number
  · rw [become_of_self address]
    cases event with
    | received | hungUp | readFailed =>
      apply Session.read_keepsPace kept
      · rfl
      · rfl
    | transportFails => exact ⟨kept, .inl rfl⟩
    | stepped => exact closing.advance_keepsPace kept _ _ _ _
    | woken => exact Session.wake_keepsPace kept
    | dropped =>
      cases address
      exact absurd rfl goesOn
    | connected | signalled | elapsed => exact still
  · rw [become_of_other address]
    exact still

/-- A schedule that never forgets a connection: again and again its session is stepped
and its handler woken, and it is not dropped. -/
structure IsFair (number : Nat) (schedule : Nat → Event) : Prop where
  steps : ∀ start, ∃ count, start ≤ count ∧ schedule count = .stepped number
  wakes : ∀ start, ∃ count, start ≤ count ∧ schedule count = .woken number
  keeps : ∀ count, schedule count ≠ .dropped number

theorem isFair_alternating (number : Nat) :
    IsFair number fun count => if count % 2 = 0 then .stepped number else .woken number where
  steps start := ⟨2 * start, by omega, by simp⟩
  wakes start := ⟨2 * start + 1, by omega, by simp [Nat.add_mod]⟩
  keeps count := by
    by_cases even : count % 2 = 0
    · simp [even]
    · simp [even]

def upTo (schedule : Nat → Event) (service : Service ω σ) (count : Nat) : Service ω σ :=
  service.run ((List.range count).map schedule)

theorem upTo_succ (schedule : Nat → Event) (service : Service ω σ) (count : Nat) :
    service.upTo schedule (count + 1) = (service.upTo schedule count).apply (schedule count) := by
  rw [upTo, List.range_succ, List.map_append, run_append]
  rfl

/-- On a fair schedule a session that is bound to end comes to its end. -/
theorem ends_of_fair {schedule : Nat → Event} (fair : IsFair number schedule)
    (found : service.session? number = some session) (closing : session.IsClosing service.signal)
    (kept : session.phase ≠ .dropped) :
    ∃ count session' result, (service.upTo schedule count).session? number = some session' ∧
      session'.phase = .ended result := by
  have reached (count : Nat) : ∃ session', (service.upTo schedule count).session? number =
      some session' ∧ session'.IsClosing (service.upTo schedule count).signal ∧
        session'.phase ≠ .dropped := by
    induction count with
    | zero => exact ⟨session, found, closing, kept⟩
    | succ count ih =>
      obtain ⟨session', found', closing', kept'⟩ := ih
      rw [upTo_succ]
      exact ⟨_, session?_apply found' _, become_isClosing closing' _,
        (become_keepsPace closing' kept' (fair.keeps count)).kept⟩
  choose at_ found closing kept using reached
  have next (count : Nat) : at_ (count + 1) =
      (service.upTo schedule count).become number (schedule count) (at_ count) := by
    have found' := session?_apply (found count) (schedule count)
    rw [← upTo_succ, found (count + 1)] at found'
    exact Option.some.inj found'
  -- From the time on at which the least is left to do, nothing changes that.
  obtain ⟨_, ⟨start, rfl⟩, least⟩ := Session.isLess_wellFounded.has_min
    (Set.range fun count => (at_ count).remaining) ⟨_, 0, rfl⟩
  have stays (count : Nat) : (at_ (start + count)).remaining = (at_ start).remaining := by
    induction count with
    | zero => rfl
    | succ count ih =>
      have pace := (become_keepsPace (closing (start + count)) (kept (start + count))
        (fair.keeps (start + count))).remaining
      rw [← next, ih] at pace
      exact pace.resolve_right (least _ ⟨_, rfl⟩)
  have rests {time : Nat} (later : start ≤ time) :
      (at_ time).remaining = (at_ start).remaining ∧
        ¬Session.IsLess (at_ (time + 1)).remaining (at_ time).remaining := by
    obtain ⟨count, rfl⟩ := Nat.exists_eq_add_of_le later
    rw [stays count]
    exact ⟨rfl, least _ ⟨_, rfl⟩⟩
  by_contra never
  have before : (at_ start).stage ≠ 0 := by
    intro through
    obtain ⟨result, ended⟩ := Session.ended_of_stage (kept start) through
    exact never ⟨start, _, result, found start, ended⟩
  by_cases waits : (at_ start).isWaiting = true
  · obtain ⟨time, later, woken⟩ := fair.wakes start
    obtain ⟨same, rests⟩ := rests later
    apply rests
    rw [next, woken, become_of_self rfl]
    exact Session.wake_isLess ((Session.isWaiting_congr same).2 waits)
  · obtain ⟨time, later, stepped⟩ := fair.steps start
    obtain ⟨same, rests⟩ := rests later
    apply rests
    rw [next, stepped, become_of_self rfl]
    have stage : (at_ time).stage = (at_ start).stage := congrArg Prod.fst same
    exact (closing time).advance_isLess (mt (Session.isWaiting_congr same).1 waits)
      (stage ▸ before) _ _ _ _

end Service

end LdapService

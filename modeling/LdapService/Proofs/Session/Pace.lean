import LdapService.Proofs.Message.Framing
import LdapService.Proofs.Session.Calm
import LdapService.Proofs.Session.Upholds

/-!
What a step of a session does not depend on. Octets may wait behind those that it
takes up; of the clock it matters only whether a sending comes too late; and of what
connections share, what the answers of the environment show. So a session can be fed
all that it will ever hear, its clock can be stopped, and it does the same.
-/

namespace LdapService

def isLate : Except Failure Unit → Bool
  | .error failure => failure.code = .timeLimitExceeded
  | .ok () => false

def Turn.late? : Turn → Option Bool
  | .sent _ outcome => some (isLate outcome)
  | .ended _ => none

namespace SearchStream

def pace (late : Bool) (stream : SearchStream) : SearchStream :=
  { stream with deadline := if late then some 0 else none }

theorem refusal?_pace (stream : SearchStream) (closed : Bool) (now : Nat) :
    (stream.pace ((stream.refusal? closed now).any (·.code = .timeLimitExceeded))).refusal? closed 0
      = stream.refusal? closed now := by
  unfold refusal?
  by_cases gone : closed = true
  · rw [if_pos gone, if_pos gone]
  · rw [if_neg gone, if_neg gone]
    by_cases full : 0 < stream.sizeLimit ∧ stream.sizeLimit ≤ stream.sent
    · rw [if_pos full]
      exact if_pos full
    · rw [if_neg full]
      refine (if_neg full).trans ?_
      by_cases late : stream.deadline.any (· ≤ now) = true
      · rw [if_pos late]
        rfl
      · rw [if_neg late]
        rfl

theorem send_pace {now : Nat} {entry : Entry} {stream stream' : SearchStream}
    {writer writer' : Writer} {outcome : Except Failure Unit}
    (sends : stream.send Writer.sink now entry writer = (outcome, stream', writer')) :
    (stream.pace (isLate outcome)).send Writer.sink 0 entry writer =
      (outcome, stream'.pace (isLate outcome), writer') := by
  have paced := stream.refusal?_pace (Writer.sink.isClosed writer) now
  unfold send at sends ⊢
  cases refused : stream.refusal? (Writer.sink.isClosed writer) now with
  | some failure =>
    rw [refused] at sends paced
    cases sends
    have same : isLate (.error failure) = (some failure).any (·.code = .timeLimitExceeded) := rfl
    rw [same, paced]
  | none =>
    rw [refused] at sends paced
    have frame (late : Bool) : (stream.pace late).frame entry = stream.frame entry := rfl
    cases written : Writer.sink.write (stream.frame entry) writer with
    | mk result after =>
      simp only [written] at sends
      cases result with
      | ok =>
        cases sends
        have same : isLate (.ok ()) = (none : Option Failure).any (·.code = .timeLimitExceeded) := rfl
        rw [same, paced]
        simp only [frame, written]
        rfl
      | error =>
        cases sends
        have same : isLate (.error connectionClosed) =
            (none : Option Failure).any (·.code = .timeLimitExceeded) := rfl
        rw [same, paced]
        simp only [frame, written]

end SearchStream

/-- The answers of an environment show no more of its state than this view of it. -/
def Environment.SeenAs {ω ν : Type} (environment : Environment ω) (view : ω → ν)
    (seen : Environment ν) : Prop :=
  ∀ question outside,
    (seen.answer question (view outside)).1 = (environment.answer question outside).1 ∧
      (seen.answer question (view outside)).2 = view (environment.answer question outside).2

namespace Exchange

variable {ω ν σ : Type}

def through (view : ω → ν) (exchange : Exchange ω σ) : Exchange ν σ :=
  { exchange with outside := view exchange.outside }

theorem answer_through {environment : Environment ω} {view : ω → ν} {seen : Environment ν}
    (sees : environment.SeenAs view seen) (now : Nat) (question : Streaming.Question)
    (exchange : Exchange ω σ) :
    (exchange.through view).answer seen now question =
      ((exchange.answer environment now question).1,
        (exchange.answer environment now question).2.through view) := by
  cases question with
  | backend question =>
    obtain ⟨answers, leaves⟩ := sees question exchange.outside
    simp only [answer, through, answers, leaves]
  | send entry => rfl
  | isClosed => rfl

def pace (late : Bool) (exchange : Exchange ω σ) : Exchange ω σ :=
  { exchange with stream := exchange.stream.pace late }

theorem answer_pace {environment : Environment ω} {now : Nat} {late : Bool}
    {exchange : Exchange ω σ} {question : Streaming.Question}
    (agrees : ∀ entry, question = .send entry →
      isLate (exchange.stream.send Writer.sink now entry exchange.connection.writer).1 = late) :
    (exchange.pace late).answer environment 0 question =
      ((exchange.answer environment now question).1,
        (exchange.answer environment now question).2.pace late) := by
  cases question with
  | backend question => rfl
  | isClosed => rfl
  | send entry =>
    obtain ⟨outcome, stream, writer, sends⟩ : ∃ outcome stream writer,
        exchange.stream.send Writer.sink now entry exchange.connection.writer =
          (outcome, stream, writer) := ⟨_, _, _, rfl⟩
    have same := agrees entry rfl
    rw [sends] at same
    have paced := SearchStream.send_pace sends
    rw [same] at paced
    change Exchange.send 0 entry _ =
      ((Exchange.send now entry _).1, (Exchange.send now entry _).2.pace late)
    unfold Exchange.send
    simp only [pace, paced, sends]

end Exchange

namespace Task

variable {ω ν σ : Type}

theorem step_through {environment : Environment ω} {view : ω → ν} {seen : Environment ν}
    (sees : environment.SeenAs view seen) (now : Nat) (task : Task σ) (outside : ω)
    (connection : Connection σ) :
    task.step seen now (view outside) connection =
      ((task.step environment now outside connection).1,
        view (task.step environment now outside connection).2.1,
        (task.step environment now outside connection).2.2) := by
  cases program : task.program with
  | done memory outcome => rw [step_of_done program, step_of_done program]
  | crash memory reason =>
    unfold step
    simp only [program]
  | wait rest =>
    unfold step
    simp only [program]
  | ask question next =>
    have answers := Exchange.answer_through sees now question
      { outside, stream := task.stream, connection }
    simp only [Exchange.through] at answers
    rw [step_of_ask program, step_of_ask program]
    simp only [answers]

def pace (late : Bool) (task : Task σ) : Task σ :=
  { task with stream := task.stream.pace late }

def Progress.pace (late : Bool) : Progress σ → Progress σ
  | .running task => .running (task.pace late)
  | progress => progress

theorem step_pace {now : Nat} {late : Bool} {task : Task σ} {connection : Connection σ}
    (agrees : ∀ entry outcome, task.turn? now connection.writer = some (.sent entry outcome) →
      isLate outcome = late) (environment : Environment ω) (outside : ω) :
    (task.pace late).step environment 0 outside connection =
      ((task.step environment now outside connection).1.pace late,
        (task.step environment now outside connection).2) := by
  cases program : task.program with
  | done memory outcome =>
    have paced : (task.pace late).program = .done memory outcome := program
    rw [step_of_done program, step_of_done paced]
    rfl
  | crash memory reason =>
    unfold step
    simp only [pace, program]
    rfl
  | wait rest =>
    unfold step
    simp only [pace, program]
    rfl
  | ask question next =>
    have paced : (task.pace late).program = .ask question next := program
    rw [step_of_ask program, step_of_ask paced]
    have agrees' : ∀ entry, question = .send entry →
        isLate (task.stream.send Writer.sink now entry connection.writer).1 = late := by
      rintro entry rfl
      apply agrees entry
      simp only [turn?, program]
    have answers := @Exchange.answer_pace ω σ environment now late
      { outside, stream := task.stream, connection } question agrees'
    simp only [Exchange.pace] at answers
    simp only [pace, answers]
    rfl

end Task

namespace Session

variable {ω σ : Type}

/-- The session with the deadline of its search, if it serves one, passed or taken off. -/
def pace (late : Bool) (session : Session σ) : Session σ :=
  match session.phase with
  | .busy task => { session with phase := .busy (task.pace late) }
  | _ => session

theorem pace_pace (first second : Bool) (session : Session σ) :
    (session.pace first).pace second = session.pace second := by
  unfold pace
  cases phase : session.phase with
  | busy task => rfl
  | _ => simp only [phase]

@[simp] theorem pace_connection (late : Bool) (session : Session σ) :
    (session.pace late).connection = session.connection := by
  unfold pace
  split
  · rfl
  · rfl

theorem pace_of_busy {session : Session σ} {task : Task σ} (busy : session.phase = .busy task)
    (late : Bool) : session.pace late = { session with phase := .busy (task.pace late) } := by
  simp only [pace, busy]

theorem pace_phase_idle (late : Bool) (session : Session σ) :
    (session.pace late).phase = .idle ↔ session.phase = .idle := by
  unfold pace
  split
  · next busy => simp [busy]
  · rfl

theorem pace_phase_ready (late : Bool) (session : Session σ) :
    (session.pace late).phase = .ready ↔ session.phase = .ready := by
  unfold pace
  split
  · next busy => simp [busy]
  · rfl

@[simp] theorem pace_isWaiting (late : Bool) (session : Session σ) :
    (session.pace late).isWaiting = session.isWaiting := by
  unfold pace
  split
  · next busy => simp only [isWaiting, busy, Task.pace]
  · rfl

theorem pace_wake (late : Bool) (session : Session σ) :
    (session.pace late).wake = session.wake.pace late := by
  cases phase : session.phase with
  | busy task =>
    have woken : (task.pace late).wake = task.wake.pace late := by
      unfold Task.wake
      cases program : task.program <;> simp only [Task.pace, program]
    rw [pace_of_busy phase]
    simp only [wake, phase, woken, pace]
  | _ => simp only [pace, wake, phase]

theorem takeMessage_pace (handler : Handler σ) (now : Nat) (frame : Octets) (late : Bool)
    (session : Session σ) :
    (session.takeMessage handler now frame).pace late =
      (session.takeMessage handler 0 frame).pace late := by
  unfold takeMessage
  simp only
  cases Message.decode frame with
  | error error => rfl
  | ok message =>
    obtain ⟨id, request, controls⟩ := message
    cases request <;> rfl

theorem next_pace (handler : Handler σ) (now : Nat) (late : Bool) (session : Session σ) :
    (session.next handler now .quiet).pace late = (session.next handler 0 .quiet).pace late := by
  unfold next
  split
  · rfl
  · split
    · rfl
    · split
      · rfl
      · rfl
      · exact takeMessage_pace _ _ _ _ _

theorem step_through {ν : Type} {handler : Handler σ} {environment : Environment ω} {now : Nat}
    {signal : Signal} {outside outside' : ω} {session session' : Session σ} {view : ω → ν}
    {seen : Environment ν} (sees : environment.SeenAs view seen)
    (steps : session.step handler environment now signal outside = some (outside', session')) :
    session.step handler seen now signal (view outside) = some (view outside', session') := by
  unfold step at steps ⊢
  split at steps
  · cases steps
    rfl
  · split at steps
    · cases steps
    · next loud =>
      cases steps
      rw [if_neg loud]
  · next task _ =>
    rw [Task.step_through sees]
    split at steps
    · cases steps
    · next stepped =>
      cases steps
      rw [stepped]
    · next stepped =>
      cases steps
      rw [stepped]
  · cases steps
    rfl
  · cases steps
  · cases steps

theorem step_pace {handler : Handler σ} {environment : Environment ω} {now : Nat} {late : Bool}
    {outside outside' : ω} {session session' : Session σ}
    (agrees : ∀ entry outcome, session.turn? now = some (.sent entry outcome) →
      isLate outcome = late)
    (steps : session.step handler environment now .quiet outside = some (outside', session')) :
    ∃ paced, (session.pace late).step handler environment 0 .quiet outside = some (outside', paced) ∧
      ∀ other, paced.pace other = session'.pace other := by
  cases phase : session.phase with
  | ready =>
    have same : session.pace late = session := by simp only [pace, phase]
    rw [same]
    simp only [step, phase] at steps ⊢
    cases steps
    exact ⟨_, rfl, fun other => (next_pace handler now other session).symm⟩
  | busy task =>
    have turn : session.turn? now = task.turn? now session.connection.writer := by
      simp only [turn?, phase]
    rw [turn] at agrees
    have paced := Task.step_pace agrees environment outside
    rw [pace_of_busy phase late]
    simp only [step, phase] at steps
    simp only [step, paced]
    split at steps
    · cases steps
    · next task _ connection stepped =>
      cases steps
      rw [stepped]
      exact ⟨_, rfl, fun other => rfl⟩
    · next flow _ connection stepped =>
      cases steps
      rw [stepped]
      exact ⟨_, rfl, fun other => rfl⟩
  | settled flow =>
    have same : session.pace late = session := by simp only [pace, phase]
    rw [same]
    simp only [step, phase] at steps ⊢
    cases steps
    exact ⟨_, rfl, fun other => rfl⟩
  | idle => simp [step, phase] at steps
  | ended | dropped => simp [step, phase] at steps

def feed (rest : Octets) (session : Session σ) : Session σ :=
  { session with buffer := session.buffer ++ rest }.awaken

theorem receive_eq_feed {octets : Octets} {session : Session σ} (some : octets ≠ [])
    (reads : session.isReading = true) : session.receive octets = session.feed octets := by
  unfold receive
  rw [if_pos (by simp [reads, some])]
  rfl

theorem feed_of_idle {session : Session σ} (idle : session.phase = .idle) (rest : Octets) :
    session.feed rest = { session with buffer := session.buffer ++ rest, phase := .ready } := by
  simp only [feed, awaken, idle]

theorem feed_of_not_idle {session : Session σ} (awake : session.phase ≠ .idle) (rest : Octets) :
    session.feed rest = { session with buffer := session.buffer ++ rest } := by
  unfold feed awaken
  split
  · next idle => exact absurd idle awake
  · rfl

theorem feed_awake (rest : Octets) (session : Session σ) : (session.feed rest).phase ≠ .idle := by
  by_cases idle : session.phase = .idle
  · simp [feed_of_idle idle]
  · rw [feed_of_not_idle idle]
    exact idle

theorem phase_of_feed_eq {first second : Session σ} {rest rest' : Octets}
    (same : first.feed rest = second.feed rest') (busy : first.phase ≠ .ready)
    (busy' : second.phase ≠ .ready) : first.phase = second.phase := by
  have phases := congrArg phase same
  by_cases idle : first.phase = .idle
  · by_cases idle' : second.phase = .idle
    · rw [idle, idle']
    · rw [feed_of_idle idle, feed_of_not_idle idle'] at phases
      exact absurd phases.symm busy'
  · by_cases idle' : second.phase = .idle
    · rw [feed_of_not_idle idle, feed_of_idle idle'] at phases
      exact absurd phases busy
    · rw [feed_of_not_idle idle, feed_of_not_idle idle'] at phases
      exact phases

@[simp] theorem feed_connection (rest : Octets) (session : Session σ) :
    (session.feed rest).connection = session.connection := by
  unfold feed awaken
  split
  · rfl
  · rfl

theorem turn?_feed (rest : Octets) (now : Nat) (session : Session σ) :
    (session.feed rest).turn? now = session.turn? now := by
  by_cases idle : session.phase = .idle
  · simp only [feed_of_idle idle, turn?, idle]
  · rw [feed_of_not_idle idle]
    rfl

@[simp] theorem feed_isWaiting (rest : Octets) (session : Session σ) :
    (session.feed rest).isWaiting = session.isWaiting := by
  by_cases idle : session.phase = .idle
  · simp only [feed_of_idle idle, isWaiting, idle]
  · rw [feed_of_not_idle idle]
    rfl

theorem feed_wake (rest : Octets) (session : Session σ) :
    (session.feed rest).wake = session.wake.feed rest := by
  cases phase : session.phase <;> simp only [feed, awaken, wake, phase]

theorem feed_feed (first second : Octets) (session : Session σ) :
    (session.feed first).feed second = session.feed (first ++ second) := by
  by_cases idle : session.phase = .idle
  · rw [feed_of_idle idle, feed_of_idle idle, feed_of_not_idle (by simp)]
    simp only [List.append_assoc]
  · rw [feed_of_not_idle idle first, feed_of_not_idle idle, feed_of_not_idle (by exact idle)]
    simp only [List.append_assoc]

theorem feed_pace (rest : Octets) (late : Bool) (session : Session σ) :
    (session.feed rest).pace late = (session.pace late).feed rest := by
  cases phase : session.phase with
  | idle => simp only [feed, awaken, pace, phase]
  | _ => simp only [feed, awaken, pace, phase]

section Buffer

variable (buffer : Octets) (session : Session σ)

theorem follow_buffer (flow : Flow) :
    { session with buffer }.follow flow = { session.follow flow with buffer } := by
  cases flow with
  | proceed => rfl
  | close => rfl

theorem reject_buffer (error : DecodeError) :
    { session with buffer }.reject error = { session.reject error with buffer } := by
  unfold reject
  exact follow_buffer buffer
    { session with connection := (Connection.reject error session.connection).2 } _

theorem takeMessage_buffer (handler : Handler σ) (now : Nat) (frame : Octets) :
    { session with buffer }.takeMessage handler now frame =
      { session.takeMessage handler now frame with buffer } := by
  unfold takeMessage
  simp only
  cases Message.decode frame with
  | error error => exact reject_buffer buffer { session with connection.stage := .decoding } error
  | ok message =>
    cases begun : Connection.begin handler now message
        { session.connection with stage := .decoding } with
    | mk taken connection =>
      cases taken with
      | inl flow => simp only [begun]
      | inr task => simp only [begun]

end Buffer

structure IsOn (session : Session σ) : Prop where
  awake : session.phase ≠ .idle
  kept : session.phase ≠ .dropped

theorem follow_isOn (flow : Flow) (session : Session σ) : (session.follow flow).IsOn := by
  cases flow with
  | proceed => exact ⟨by simp [follow], by simp [follow]⟩
  | close => exact ⟨by simp [follow, finishRead, finish], by simp [follow, finishRead, finish]⟩

theorem reject_isOn (error : DecodeError) (session : Session σ) : (session.reject error).IsOn := by
  unfold reject
  exact follow_isOn _ _

theorem takeMessage_isOn (handler : Handler σ) (now : Nat) (frame : Octets)
    (session : Session σ) : (session.takeMessage handler now frame).IsOn := by
  unfold takeMessage
  simp only
  split
  · exact reject_isOn _ _
  · split
    · exact ⟨by simp, by simp⟩
    · exact ⟨by simp, by simp⟩

theorem feed_of_buffer {change : Session σ → Session σ}
    (keeps : ∀ (buffer : Octets) (session : Session σ),
      change { session with buffer } = { change session with buffer })
    (session : Session σ) (awake : (change session).phase ≠ .idle) (rest : Octets) :
    change { session with buffer := session.buffer ++ rest } = (change session).feed rest := by
  have same := congrArg Session.buffer (keeps session.buffer session)
  have kept : (change session).buffer = session.buffer := same
  rw [keeps, feed_of_not_idle awake, kept]

theorem step_of_waiting {session : Session σ} (waits : session.isWaiting = true)
    (handler : Handler σ) (environment : Environment ω) (now : Nat) (signal : Signal) (outside : ω) :
    session.step handler environment now signal outside = none := by
  obtain ⟨task, rest, busy, program⟩ := exists_of_waiting waits
  simp only [step, busy, Task.step, program]

theorem step_of_ready {session : Session σ} (ready : session.phase = .ready) (handler : Handler σ)
    (environment : Environment ω) (now : Nat) (signal : Signal) (outside : ω) :
    session.step handler environment now signal outside =
      some (outside, session.next handler now signal) := by
  simp only [step, ready]

/-- Idle, because the buffer holds no whole message. -/
structure NeedsMore (session : Session σ) : Prop where
  idle : session.phase = .idle
  present : session.connection.writer.peerGone = false
  cut : Frame.split session.limit session.buffer = .ok none

/-- A step is the same with more octets behind, unless it finds that they are needed. -/
theorem step_feed {handler : Handler σ} {environment : Environment ω} {now : Nat}
    {outside outside' : ω} {session session' : Session σ}
    (steps : session.step handler environment now .quiet outside = some (outside', session'))
    (rest : Octets) :
    session.phase = .ready ∧ outside' = outside ∧ session' = { session with phase := .idle } ∧
        session'.NeedsMore ∨
      session'.IsOn ∧ (session.feed rest).step handler environment now .quiet outside =
        some (outside', session'.feed rest) := by
  cases phase : session.phase with
  | ready =>
    have awake : session.phase ≠ .idle := by simp [phase]
    rw [step_of_ready phase] at steps
    rw [feed_of_not_idle awake, step_of_ready (by exact phase)]
    cases steps
    by_cases present : session.connection.writer.peerGone = false
    · rw [next_of_quiet handler now present, next_of_quiet handler now (by exact present)]
      cases cut : Frame.split session.limit session.buffer with
      | error cause =>
        simp only [Frame.split_append_error cut]
        refine .inr ⟨reject_isOn _ _, ?_⟩
        have fed := feed_of_buffer
          (fun buffer session => reject_buffer buffer session (.ofMalformation cause)) session
          (reject_isOn _ _).awake rest
        rw [← fed]
      | ok found =>
        cases found with
        | none => exact .inl ⟨rfl, rfl, rfl, rfl, present, cut⟩
        | some parts =>
          simp only [Frame.split_append_some cut]
          refine .inr ⟨takeMessage_isOn _ _ _ _, ?_⟩
          have fed := feed_of_buffer
            (fun buffer session => takeMessage_buffer buffer session handler now parts.1)
            { session with buffer := parts.2 } (takeMessage_isOn _ _ _ _).awake rest
          rw [← fed]
    · have gone : session.connection.writer.peerGone = true := by simpa using present
      simp only [next, gone, if_true]
      refine .inr ⟨follow_isOn .close session, ?_⟩
      exact congrArg (fun next => some (outside, next))
        (feed_of_buffer (fun _ _ => rfl) session (follow_isOn .close session).awake rest)
  | busy task =>
    have awake : session.phase ≠ .idle := by simp [phase]
    rw [feed_of_not_idle awake]
    simp only [step, phase] at steps ⊢
    cases stepped : task.step environment now outside session.connection with
    | mk progress after =>
      rw [stepped] at steps
      cases progress with
      | waiting => cases steps
      | running next =>
        cases steps
        exact .inr ⟨⟨by simp, by simp⟩, rfl⟩
      | finished flow =>
        cases steps
        exact .inr ⟨⟨by simp, by simp⟩, rfl⟩
  | settled flow =>
    have awake : session.phase ≠ .idle := by simp [phase]
    rw [feed_of_not_idle awake]
    simp only [step, phase] at steps ⊢
    cases steps
    exact .inr ⟨follow_isOn _ _, congrArg (fun next => some (outside, next))
      (feed_of_buffer (fun buffer session => follow_buffer buffer session flow) session
        (follow_isOn _ _).awake rest)⟩
  | idle => simp [step, phase] at steps
  | ended | dropped => simp [step, phase] at steps

end Session

end LdapService

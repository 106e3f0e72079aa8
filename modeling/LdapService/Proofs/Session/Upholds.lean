import LdapService.Proofs.Program.Contract
import LdapService.Proofs.Session.Events

/-!
What every session of a service keeps to, from one event to the next. If each
request of a handler meets a contract, and the environment keeps it, then what
the requests of a connection do to its memory is all that ever happens to it,
in whatever order the steps of all connections come.
-/

namespace LdapService

namespace Session

variable {ω σ : Type}

def taken? (signal : Signal) (session : Session σ) : Option Message :=
  match session.phase with
  | .ready =>
      if session.connection.writer.peerGone || signal = .shutdown then none
      else
        match Frame.split session.limit session.buffer with
        | .ok (some (frame, _)) => (Message.decode frame).toOption
        | _ => none
  | _ => none

def IsBusy (session : Session σ) : Prop :=
  ∃ task, session.phase = .busy task

theorem finish_quiet (result : Except ServiceError Unit) (session : Session σ) :
    ¬(session.finish result).IsBusy := by
  rintro ⟨task, busy⟩
  cases busy

theorem follow_quiet (flow : Flow) (session : Session σ) : ¬(session.follow flow).IsBusy := by
  rintro ⟨task, busy⟩
  cases flow with
  | proceed => cases busy
  | close => cases busy

theorem settled_quiet {flow : Flow} {session : Session σ}
    (settled : session.phase = .settled flow) : ¬session.IsBusy :=
  fun ⟨_, busy⟩ => nomatch settled.symm.trans busy

theorem follow_memory (flow : Flow) (session : Session σ) :
    (session.follow flow).connection.memory = session.connection.memory := by
  cases flow <;> rfl

end Session

namespace Connection

variable {ω σ : Type}

theorem finish_memory (frame : Octets) (connection : Connection σ) :
    (connection.finish frame).2.memory = connection.memory := by
  unfold finish
  split
  · rfl
  · split
    · rfl
    · rfl

theorem reject_memory (error : DecodeError) (connection : Connection σ) :
    (connection.reject error).2.memory = connection.memory := by
  cases error with
  | malformed reason => rfl
  | refused refusal => exact finish_memory _ _

theorem conclude_memory (task : Task σ) (memory : σ) (outcome : Except Failure Reply)
    (connection : Connection σ) :
    (connection.conclude task memory outcome).2.memory = memory := by
  unfold conclude
  exact finish_memory _ _

theorem begin_memory (handler : Handler σ) (now : Nat) (message : Message)
    (connection : Connection σ) :
    (connection.begin handler now message).2.memory = connection.memory := by
  unfold begin
  simp only
  split
  · split
    · rfl
    · rfl
  · rfl

theorem begin_program {handler : Handler σ} {now : Nat} {message : Message}
    {connection connection' : Connection σ} {task : Task σ}
    (h : connection.begin handler now message = (.inr task, connection')) :
    task.program = handler.perform message.request connection.memory := by
  unfold begin at h
  simp only at h
  split at h
  · split at h
    · cases h
    · cases h
  · cases h
    rfl

end Connection

namespace Exchange

variable {ω σ : Type} {contract : Contract backend} {environment : Environment ω} {good : ω → Prop}

theorem send_memory (now : Nat) (entry : Entry) (exchange : Exchange ω σ) :
    (exchange.send now entry).2.outside = exchange.outside ∧
      (exchange.send now entry).2.connection.memory = exchange.connection.memory := by
  unfold send
  simp only
  refine ⟨trivial, ?_⟩
  split
  · rfl
  · rfl

theorem answer_kept (kept : contract.KeptBy environment.answer good) (now : Nat)
    (question : Streaming.Question) (exchange : Exchange ω σ)
    (allowed : contract.toStreaming.allowed question) (start : good exchange.outside) :
    contract.toStreaming.possible question (answer environment now question exchange).1 ∧
      good (answer environment now question exchange).2.outside ∧
      (answer environment now question exchange).2.connection.memory =
        exchange.connection.memory := by
  cases question with
  | backend question =>
    obtain ⟨possible, finish⟩ := kept question exchange.outside allowed start
    exact ⟨possible, finish, rfl⟩
  | send entry =>
    obtain ⟨untouched, memory⟩ := exchange.send_memory now entry
    refine ⟨trivial, ?_, memory⟩
    change good (exchange.send now entry).2.outside
    rw [untouched]
    exact start
  | isClosed => exact ⟨trivial, start, rfl⟩

end Exchange

namespace Task

variable {ω σ : Type} {contract : Contract backend} {environment : Environment ω}
  {good : ω → Prop} {kept : σ → Prop}

def Upholds (contract : Contract backend) (kept : σ → Prop) (task : Task σ) : Prop :=
  task.program.Meets contract.toStreaming fun after _ => kept after

theorem step_of_done {task : Task σ} {memory : σ} {outcome : Except Failure Reply}
    (h : task.program = .done memory outcome) (now : Nat) (outside : ω)
    (connection : Connection σ) :
    task.step environment now outside connection =
      (.finished (connection.conclude task memory outcome).1, outside,
        (connection.conclude task memory outcome).2) := by
  rw [step, h]

theorem step_of_ask {task : Task σ} {question : Streaming.Question}
    {next : Streaming.Answer question → Program streaming σ (Except Failure Reply)}
    (h : task.program = .ask question next) (now : Nat) (outside : ω)
    (connection : Connection σ) :
    task.step environment now outside connection =
      let told := Exchange.answer environment now question
        { outside, stream := task.stream, connection }
      (.running { task with stream := told.2.stream, program := next told.1 }, told.2.outside,
        told.2.connection) := by
  rw [step, h]

theorem step_upholds (keeps : contract.KeptBy environment.answer good) (now : Nat)
    {task : Task σ} (h : task.Upholds contract kept) {outside : ω} (start : good outside)
    (connection : Connection σ) :
    match task.step environment now outside connection with
    | (.waiting, _, _) => False
    | (.running next, outside', connection') => good outside' ∧
        connection'.memory = connection.memory ∧ next.Upholds contract kept
    | (.finished _, outside', connection') => good outside' ∧ kept connection'.memory := by
  unfold Upholds at h
  cases program : task.program with
  | done memory outcome =>
    rw [program] at h
    rw [step_of_done program]
    refine ⟨start, ?_⟩
    rw [Connection.conclude_memory]
    exact h
  | crash memory reason =>
    rw [program] at h
    exact h.elim
  | wait next =>
    rw [program] at h
    exact h.elim
  | ask question next =>
    rw [program] at h
    obtain ⟨allowed, continued⟩ := h
    obtain ⟨possible, finish, memory⟩ := Exchange.answer_kept keeps now question
      { outside, stream := task.stream, connection } allowed start
    rw [step_of_ask program]
    exact ⟨finish, memory, continued _ possible⟩

end Task

namespace Session

variable {ω σ : Type} {contract : Contract backend} {environment : Environment ω}
  {good : ω → Prop} {kept kept' : σ → Prop}

theorem reject_memory (error : DecodeError) (session : Session σ) :
    (session.reject error).connection.memory = session.connection.memory := by
  unfold reject
  rw [follow_memory]
  exact Connection.reject_memory error session.connection

theorem reject_quiet (error : DecodeError) (session : Session σ) :
    ¬(session.reject error).IsBusy := follow_quiet _ _

theorem takeMessage_memory (handler : Handler σ) (now : Nat) (frame : Octets)
    (session : Session σ) :
    (session.takeMessage handler now frame).connection.memory = session.connection.memory := by
  unfold takeMessage
  simp only
  split
  · exact reject_memory _ _
  · next message _ =>
    have begun := Connection.begin_memory handler now message
      { session.connection with stage := .decoding }
    split
    · next begins =>
      rw [begins] at begun
      exact begun
    · next begins =>
      rw [begins] at begun
      exact begun

theorem takeMessage_busy {handler : Handler σ} {now : Nat} {frame : Octets}
    {session : Session σ} {task : Task σ}
    (h : (session.takeMessage handler now frame).phase = .busy task) :
    ∃ message, Message.decode frame = .ok message ∧
      { session.connection with stage := .decoding }.begin handler now message =
        (.inr task, (session.takeMessage handler now frame).connection) := by
  unfold takeMessage at h ⊢
  simp only at h ⊢
  split at h
  · exact absurd ⟨task, h⟩ (reject_quiet _ _)
  · next message decoded =>
    refine ⟨message, decoded, ?_⟩
    split at h
    · cases h
    · next begins =>
      cases h
      simp only [begins]

theorem next_memory (handler : Handler σ) (now : Nat) (signal : Signal) (session : Session σ) :
    (session.next handler now signal).connection.memory = session.connection.memory := by
  unfold next
  split
  · rfl
  · split
    · rfl
    · split
      · exact reject_memory _ _
      · rfl
      · exact takeMessage_memory _ _ _ _

theorem next_busy {handler : Handler σ} {now : Nat} {signal : Signal} {session : Session σ}
    {task : Task σ} (ready : session.phase = .ready)
    (h : (session.next handler now signal).phase = .busy task) :
    ∃ message, session.taken? signal = some message ∧
      { session.connection with stage := .decoding }.begin handler now message =
        (.inr task, (session.next handler now signal).connection) := by
  unfold next at h ⊢
  split at h
  · exact absurd ⟨task, h⟩ (finish_quiet _ _)
  · next present =>
    split at h
    · exact absurd ⟨task, h⟩ (finish_quiet _ _)
    · next open_ =>
      split at h
      · exact absurd ⟨task, h⟩ (reject_quiet _ _)
      · cases h
      · next frame rest cut =>
        obtain ⟨message, decoded, begins⟩ := takeMessage_busy h
        refine ⟨message, ?_, ?_⟩
        · simp [taken?, ready, present, open_, cut, decoded, Except.toOption]
        · rw [if_neg present, if_neg open_]
          exact begins

/-- The memory is as it should be, and stays so when the operation ends. -/
structure Upholds (contract : Contract backend) (kept : σ → Prop) (session : Session σ) : Prop where
  memory : kept session.connection.memory
  task : ∀ task, session.phase = .busy task → task.Upholds contract kept

theorem Upholds.mono {session : Session σ} (h : session.Upholds contract kept)
    (implied : ∀ memory, kept memory → kept' memory) : session.Upholds contract kept' := by
  refine ⟨implied _ h.memory, ?_⟩
  intro task busy
  exact (h.task task busy).mono fun memory _ => implied memory

theorem Upholds.of_same {session session' : Session σ} (h : session.Upholds contract kept)
    (memory : session'.connection.memory = session.connection.memory)
    (phase : ∀ task, session'.phase = .busy task → session.phase = .busy task) :
    session'.Upholds contract kept := by
  refine ⟨memory ▸ h.memory, ?_⟩
  intro task busy
  exact h.task task (phase task busy)

theorem Upholds.of_quiet {session : Session σ} (memory : kept session.connection.memory)
    (quiet : ¬session.IsBusy) : session.Upholds contract kept := by
  refine ⟨memory, ?_⟩
  intro task busy
  exact absurd ⟨task, busy⟩ quiet

theorem awaken_memory (session : Session σ) :
    session.awaken.connection.memory = session.connection.memory := by
  unfold awaken
  split
  · rfl
  · rfl

theorem drop_quiet (session : Session σ) : ¬session.drop.IsBusy := by
  rintro ⟨task, busy⟩
  unfold drop at busy
  split at busy
  · next ended =>
    rw [ended] at busy
    cases busy
  · next dropped =>
    rw [dropped] at busy
    cases busy
  · cases busy

theorem phase_of_awaken {session : Session σ} {task : Task σ}
    (h : session.awaken.phase = .busy task) : session.phase = .busy task := by
  unfold awaken at h
  split at h
  · cases h
  · exact h

section Others

variable {session : Session σ}

theorem Upholds.awaken (h : session.Upholds contract kept) :
    session.awaken.Upholds contract kept :=
  h.of_same session.awaken_memory fun _ => phase_of_awaken

theorem Upholds.read (h : session.Upholds contract kept) (changed : Session σ)
    (memory : changed.connection.memory = session.connection.memory)
    (phase : changed.phase = session.phase) (reads : Bool) :
    (if reads then changed.awaken else session).Upholds contract kept := by
  split
  · apply Upholds.awaken
    apply h.of_same memory
    intro task busy
    rw [← phase, busy]
  · exact h

theorem Upholds.receive (h : session.Upholds contract kept) (octets : Octets) :
    (session.receive octets).Upholds contract kept :=
  h.read { session with buffer := session.buffer ++ octets } rfl rfl _

theorem Upholds.hangUp (h : session.Upholds contract kept) :
    session.hangUp.Upholds contract kept :=
  h.read session.markPeerGone rfl rfl _

theorem Upholds.readFailed (h : session.Upholds contract kept) (error : IoError) :
    (session.readFailed error).Upholds contract kept :=
  h.read { session.markPeerGone with
      readError := if error.isHangUp then session.readError else some error } rfl rfl _

theorem Upholds.failTransport (h : session.Upholds contract kept)
    (operation : Transport.Operation) (error : IoError) :
    (session.failTransport operation error).Upholds contract kept :=
  h.of_same rfl fun _ => id

theorem Upholds.wake_eq (h : session.Upholds contract kept) : session.wake = session := by
  unfold Session.wake
  split
  · next task busy =>
    have meets := h.task task busy
    unfold Task.Upholds at meets
    unfold Task.wake
    split
    · next waits =>
      rw [waits] at meets
      exact meets.elim
    · rw [← busy]
  · rfl

theorem Upholds.drop (h : session.Upholds contract kept) :
    session.drop.Upholds contract kept := by
  refine .of_quiet ?_ session.drop_quiet
  unfold Session.drop
  split
  · exact h.memory
  · exact h.memory
  · exact h.memory

end Others

theorem step_of_done {session : Session σ} {task : Task σ} {memory : σ}
    {outcome : Except Failure Reply} (busy : session.phase = .busy task)
    (ends : task.program = .done memory outcome) (handler : Handler σ)
    (environment : Environment ω) (now : Nat) (signal : Signal) (outside : ω) :
    session.step handler environment now signal outside =
      let concluded := session.connection.conclude task memory outcome
      some (outside, { session with
        connection := concluded.2
        phase := .settled concluded.1 }) := by
  simp only [step, busy, Task.step_of_done ends]

theorem step_of_ask {session : Session σ} {task : Task σ} {question : Streaming.Question}
    {next : Streaming.Answer question → Program streaming σ (Except Failure Reply)}
    (busy : session.phase = .busy task) (asks : task.program = .ask question next)
    (handler : Handler σ) (environment : Environment ω) (now : Nat) (signal : Signal)
    (outside : ω) :
    session.step handler environment now signal outside =
      let told := Exchange.answer environment now question
        { outside, stream := task.stream, connection := session.connection }
      some (told.2.outside, { session with
        connection := told.2.connection
        phase := .busy { task with stream := told.2.stream, program := next told.1 } }) := by
  simp only [step, busy, Task.step_of_ask asks]

/-- One step: what is kept grows by what the request taken up may leave. -/
theorem step_upholds {handler : Handler σ} {now : Nat} {signal : Signal} {outside outside' : ω}
    {session session' : Session σ} (keeps : contract.KeptBy environment.answer good)
    (h : session.Upholds contract kept) (start : good outside)
    (grows : ∀ memory, kept memory → kept' memory)
    (performs : ∀ message ∈ session.taken? signal,
      (handler.perform message.request session.connection.memory).Meets contract.toStreaming
        fun after _ => kept' after)
    (stepped : session.step handler environment now signal outside = some (outside', session')) :
    good outside' ∧ session'.Upholds contract kept' := by
  unfold step at stepped
  split at stepped
  · next ready =>
    cases stepped
    refine ⟨start, ?_, ?_⟩
    · rw [next_memory]
      exact grows _ h.memory
    · intro task busy
      obtain ⟨message, taken, begins⟩ := next_busy ready busy
      unfold Task.Upholds
      rw [Connection.begin_program begins]
      exact performs message taken
  · split at stepped
    · cases stepped
    · cases stepped
      exact ⟨start, .of_quiet (grows _ h.memory) (finish_quiet _ _)⟩
  · next task busy =>
    have went := task.step_upholds keeps now (h.task task busy) start session.connection
    split at stepped
    · cases stepped
    · next running =>
      cases stepped
      rw [running] at went
      obtain ⟨finish, memory, meets⟩ := went
      refine ⟨finish, grows _ (memory ▸ h.memory), ?_⟩
      rintro _ ⟨⟩
      exact meets.mono fun memory _ => grows memory
    · next finished =>
      cases stepped
      rw [finished] at went
      exact ⟨went.1, .of_quiet (grows _ went.2) (settled_quiet rfl)⟩
  · cases stepped
    refine ⟨start, .of_quiet ?_ (follow_quiet _ _)⟩
    rw [follow_memory]
    exact grows _ h.memory
  · cases stepped
  · cases stepped

end Session

end LdapService

import LdapService.Proofs.Session.Alike

/-!
One connection served message by message, each to its end before the next. When
the programs of two handlers are alike, the connection ends up the same; and as
long as its writer is sound, no message but an unbind ends it.
-/

namespace LdapService

namespace Writer

structure IsSound (writer : Writer) : Prop where
  isOpen : writer.isClosed = false
  write : writer.transport.writeError = none
  flush : writer.transport.flushError = none

theorem IsSound.written {writer : Writer} (h : writer.IsSound) (frame : Octets) :
    ∃ transport, writer.write frame = (.ok (), { writer with transport }) ∧
      ({ writer with transport } : Writer).IsSound := by
  have transmitted : ∃ transport, transmit frame writer.transport = (.ok (), transport) ∧
      transport.writeError = none ∧ transport.flushError = none := by
    unfold transmit Transport.write
    by_cases empty : frame = []
    · simp only [empty, if_true, Transport.flush, h.flush]
      exact ⟨_, rfl, h.write, h.flush⟩
    · simp only [empty, if_false, h.write, Transport.flush, h.flush]
      exact ⟨_, rfl, rfl, rfl⟩
  obtain ⟨transport, sent, write, flush⟩ := transmitted
  refine ⟨transport, ?_, h.isOpen, write, flush⟩
  simp only [Writer.write, h.isOpen, sent, Bool.false_eq_true, if_false]

end Writer

namespace Connection

variable {ω σ : Type}

theorem finish_of_isSound {connection : Connection σ} (h : connection.writer.IsSound)
    (frame : Octets) :
    (connection.finish frame).1 = .proceed ∧ (connection.finish frame).2.writer.IsSound := by
  obtain ⟨transport, written, sound⟩ := h.written frame
  unfold finish
  simp only [h.isOpen, Bool.false_eq_true, if_false, written]
  exact ⟨trivial, sound⟩

theorem finish_observed (frame : Octets) (connection : Connection σ) :
    (connection.finish frame).2.observed = connection.observed := by
  unfold finish
  split
  · rfl
  · split
    · rfl
    · rfl

theorem conclude_observed (task : Task σ) (memory : σ) (outcome : Except Failure Reply)
    (connection : Connection σ) :
    (connection.conclude task memory outcome).2.observed =
      connection.observed ++ [.operation task.kind.name (answerOf task outcome).1] := by
  unfold conclude
  simp only
  rw [finish_observed]
  rfl

theorem conclude_of_isSound {connection : Connection σ} (h : connection.writer.IsSound)
    (task : Task σ) (memory : σ) (outcome : Except Failure Reply) :
    (connection.conclude task memory outcome).1 = .proceed ∧
      (connection.conclude task memory outcome).2.writer.IsSound := by
  unfold conclude
  have sound : (({ connection with memory, stage := .completed } : Connection σ).observe
      (.operation task.kind.name (answerOf task outcome).1)).writer.IsSound := h
  exact finish_of_isSound sound (answerOf task outcome).2

def handle (handler : Handler σ) (environment : Environment ω) (now : Nat) (message : Message)
    (outside : ω) (connection : Connection σ) : Flow × ω × Connection σ :=
  match connection.begin handler now message with
  | (.inl flow, connection) => (flow, outside, connection)
  | (.inr task, connection) =>
      match task.run environment now outside connection with
      | (.finished flow, outside, connection) => (flow, outside, connection)
      | (.waiting _, outside, connection) => (.close, outside, connection)

/-- The connection after each of the messages, which come with the time, up to
the one that ends it. -/
def serve (handler : Handler σ) (environment : Environment ω) :
    List (Nat × Message) → ω → Connection σ → List (Connection σ)
  | [], _, _ => []
  | (now, message) :: rest, outside, connection =>
      match connection.handle handler environment now message outside with
      | (.proceed, outside, connection) =>
          connection :: serve handler environment rest outside connection
      | (.close, _, connection) => [connection]

end Connection

theorem Exchange.answer_of_isSound {ω σ : Type} (environment : Environment ω) (now : Nat)
    (question : Streaming.Question) (exchange : Exchange ω σ)
    (h : exchange.connection.writer.IsSound) :
    (answer environment now question exchange).2.connection.writer.IsSound := by
  cases question with
  | backend => exact h
  | isClosed => exact h
  | send entry =>
    obtain ⟨transport, written, sound⟩ := h.written (exchange.stream.frame entry)
    change (exchange.send now entry).2.connection.writer.IsSound
    unfold send SearchStream.send
    simp only [Writer.sink]
    cases exchange.stream.refusal? exchange.connection.writer.isClosed now with
    | some failure => exact h
    | none =>
      simp only [written]
      exact sound

namespace Task

variable {ω ω' σ : Type} {here there : Contract backend} {environment : Environment ω}
  {environment' : Environment ω'} {good : ω → Prop} {good' : ω' → Prop}

theorem run_of_done {task : Task σ} {memory : σ} {outcome : Except Failure Reply}
    (h : task.program = .done memory outcome) (now : Nat) (outside : ω)
    (connection : Connection σ) :
    task.run environment now outside connection =
      (.finished (connection.conclude task memory outcome).1, outside,
        (connection.conclude task memory outcome).2) := by
  rw [run]
  split
  · next stepped => rw [step_of_done h] at stepped; cases stepped
  · next stepped => rw [step_of_done h] at stepped; cases stepped; rfl
  · next stepped => rw [step_of_done h] at stepped; cases stepped

theorem run_of_ask {task : Task σ} {question : Streaming.Question}
    {next : Streaming.Answer question → Program streaming σ (Except Failure Reply)}
    (h : task.program = .ask question next) (now : Nat) (outside : ω)
    (connection : Connection σ) :
    task.run environment now outside connection =
      let told := Exchange.answer environment now question
        { outside, stream := task.stream, connection }
      run environment now { task with stream := told.2.stream, program := next told.1 }
        told.2.outside told.2.connection := by
  rw [run]
  split
  · next stepped => rw [step_of_ask h] at stepped; cases stepped
  · next stepped => rw [step_of_ask h] at stepped; cases stepped
  · next stepped => rw [step_of_ask h] at stepped; cases stepped; rfl

/-- The two runs come to the same end. Whether the connection goes on is for
the writer to say alone. -/
theorem run_alike (keepsHere : here.KeptBy environment.answer good)
    (keepsThere : there.KeptBy environment'.answer good') (now : Nat)
    {program other : Program streaming σ (Except Failure Reply)}
    (alike : program.Alike Streaming.Question.IsSeen here.toStreaming there.toStreaming other)
    (meets : program.Meets here.toStreaming fun _ _ => True)
    (meets' : other.Meets there.toStreaming fun _ _ => True) (task : Task σ) {outside : ω}
    {outside' : ω'} (start : good outside) (start' : good' outside')
    (connection : Connection σ) :
    ∃ flow finish finish' connection',
      run environment now { task with program } outside connection =
          (.finished flow, finish, connection') ∧
        run environment' now { task with program := other } outside' connection =
          (.finished flow, finish', connection') ∧
        good finish ∧ good' finish' ∧
        (connection.writer.IsSound → flow = .proceed ∧ connection'.writer.IsSound) := by
  induction alike generalizing task outside outside' connection with
  | done memory outcome =>
    rw [run_of_done rfl, run_of_done rfl]
    exact ⟨_, _, _, _, rfl, rfl, start, start',
      fun sound => Connection.conclude_of_isSound sound _ _ _⟩
  | @both question next next' seen rest ih =>
    have first : run environment now { task with program := .ask question next } outside
        connection = _ := run_of_ask rfl now outside connection
    have second : run environment' now { task with program := .ask question next' } outside'
        connection = _ := run_of_ask rfl now outside' connection
    rw [first, second]
    have kept := Exchange.answer_kept keepsHere now question
      ⟨outside, task.stream, connection⟩ meets.1 start
    have kept' := Exchange.answer_kept keepsThere now question
      ⟨outside', task.stream, connection⟩ meets'.1 start'
    have sound := Exchange.answer_of_isSound environment now question
      ⟨outside, task.stream, connection⟩
    rw [Exchange.answer_seen environment environment' now seen outside outside'] at kept' ⊢
    generalize Exchange.answer environment now question ⟨outside, task.stream, connection⟩ = told
      at kept kept' sound ⊢
    obtain ⟨flow, finish, finish', connection', ran, ran', good, good', sound'⟩ :=
      ih _ (meets.2 _ kept.1) (meets'.2 _ kept'.1) { task with stream := told.2.stream }
        kept.2.1 start' told.2.connection
    exact ⟨flow, finish, finish', connection', ran, ran', good, good', fun h => sound' (sound h)⟩
  | @first question next other hidden rest ih =>
    have first : run environment now { task with program := .ask question next } outside
        connection = _ := run_of_ask rfl now outside connection
    rw [first]
    have kept := Exchange.answer_kept keepsHere now question
      ⟨outside, task.stream, connection⟩ meets.1 start
    cases question with
    | send => exact absurd trivial hidden
    | isClosed => exact absurd trivial hidden
    | backend question =>
      exact ih _ kept.1 (meets.2 _ kept.1) meets' task kept.2.1 start' connection
  | @second question next other hidden rest ih =>
    have second : run environment' now { task with program := .ask question next } outside'
        connection = _ := run_of_ask rfl now outside' connection
    rw [second]
    have kept := Exchange.answer_kept keepsThere now question
      ⟨outside', task.stream, connection⟩ meets'.1 start'
    cases question with
    | send => exact absurd trivial hidden
    | isClosed => exact absurd trivial hidden
    | backend question =>
      exact ih _ kept.1 meets (meets'.2 _ kept.1) task start kept.2.1 connection

end Task

namespace Connection

variable {ω ω' σ : Type} {here there : Contract backend} {environment : Environment ω}
  {environment' : Environment ω'} {good : ω → Prop} {good' : ω' → Prop}

theorem begin_writer (handler : Handler σ) (now : Nat) (message : Message)
    (connection : Connection σ) :
    (connection.begin handler now message).2.writer = connection.writer := by
  unfold begin
  simp only
  split
  · split
    · rfl
    · rfl
  · rfl

theorem begin_flow {handler : Handler σ} {now : Nat} {message : Message}
    {connection connection' : Connection σ} {flow : Flow}
    (h : connection.begin handler now message = (.inl flow, connection'))
    (other : message.request.kind ≠ .unbind) : flow = .proceed := by
  unfold begin at h
  simp only at h
  split at h
  · rw [if_neg other] at h
    cases h
    rfl
  · cases h

theorem handle_alike (keepsHere : here.KeptBy environment.answer good)
    (keepsThere : there.KeptBy environment'.answer good') {handler handler' : Handler σ}
    (now : Nat) (message : Message) (connection : Connection σ)
    (alike : (handler.perform message.request connection.memory).Alike
      Streaming.Question.IsSeen here.toStreaming there.toStreaming
        (handler'.perform message.request connection.memory))
    (meets : (handler.perform message.request connection.memory).Meets here.toStreaming
      fun _ _ => True)
    (meets' : (handler'.perform message.request connection.memory).Meets there.toStreaming
      fun _ _ => True) {outside : ω} {outside' : ω'} (start : good outside)
    (start' : good' outside') :
    ∃ flow finish finish' connection',
      handle handler environment now message outside connection =
          (flow, finish, connection') ∧
        handle handler' environment' now message outside' connection =
          (flow, finish', connection') ∧
        good finish ∧ good' finish' ∧
        (message.request.kind ≠ .unbind → connection.writer.IsSound →
          flow = .proceed ∧ connection'.writer.IsSound) := by
  have program := @begin_program _ handler now message connection
  have writer := begin_writer handler now message connection
  have flows := @begin_flow _ handler now message connection
  unfold handle
  rw [begin_other handler handler']
  generalize begin handler now message connection = begun at program writer flows
  obtain ⟨flow | task, connection'⟩ := begun
  · refine ⟨_, _, _, _, rfl, rfl, start, start', fun other sound => ⟨flows rfl other, ?_⟩⟩
    rw [writer]
    exact sound
  · rw [← program rfl] at alike meets
    obtain ⟨flow, finish, finish', ended, ran, ran', good, good', sound⟩ :=
      Task.run_alike keepsHere keepsThere now alike meets meets' task start start' connection'
    simp only [Sum.map_inr, ran']
    rw [show task.run environment now outside connection' = _ from ran]
    refine ⟨_, _, _, _, rfl, rfl, good, good', fun _ writerSound => sound ?_⟩
    rw [writer]
    exact writerSound

end Connection

end LdapService

import LdapService.Proofs.Handler.Noted
import LdapService.Proofs.Session.Underway

/-!
Operations of a handler that notes its calls. What comes to pass in them is what comes to
pass without the notes, and at the end there is a note more for the one call.
-/

namespace LdapService

variable {ω σ : Type}

def Connection.noting (notes : List Handler.Call) (connection : Connection σ) :
    Connection (σ × List Handler.Call) where
  memory := (connection.memory, notes)
  stage := connection.stage
  writer := connection.writer
  observed := connection.observed

def Task.noting (notes : List Handler.Call) (task : Task σ) : Task (σ × List Handler.Call) where
  id := task.id
  kind := task.kind
  response := task.response
  stream := task.stream
  program := task.program.mapMemory fun after => (after, notes)

def Underway.noting (notes later : List Handler.Call) (underway : Underway σ) :
    Underway (σ × List Handler.Call) where
  now := underway.now
  task := underway.task.noting later
  connection := underway.connection.noting notes

variable {environment : Environment ω} {notes later : List Handler.Call}

namespace Connection

theorem finish_noting (frame : Octets) (connection : Connection σ) :
    (connection.noting notes).finish frame =
      ((connection.finish frame).1, (connection.finish frame).2.noting notes) := by
  have writer : (connection.noting notes).writer = connection.writer := rfl
  unfold finish
  rw [writer]
  cases connection.writer.isClosed with
  | true => rfl
  | false =>
    generalize connection.writer.write frame = wrote
    obtain ⟨outcome, writer⟩ := wrote
    cases outcome with
    | ok => rfl
    | error => rfl

theorem answerOf_noting (task : Task σ) (outcome : Except Failure Reply) :
    answerOf (task.noting later) outcome = answerOf task outcome := by
  cases outcome with
  | error => rfl
  | ok reply =>
    cases reply with
    | code => rfl
    | extended => rfl

theorem conclude_noting (task : Task σ) (memory : σ) (outcome : Except Failure Reply)
    (connection : Connection σ) :
    (connection.noting notes).conclude (task.noting later) (memory, later) outcome =
      ((connection.conclude task memory outcome).1,
        (connection.conclude task memory outcome).2.noting later) := by
  simp only [conclude, answerOf_noting]
  exact finish_noting _ (({ connection with memory, stage := .completed } : Connection σ).observe
    (.operation task.kind.name (answerOf task outcome).1))

theorem begin_noting (handler : Handler σ) (now : Nat) (message : Message)
    (connection : Connection σ) :
    (connection.noting notes).begin handler.noted now message =
      ((connection.begin handler now message).1.map id
          (Task.noting (notes ++ message.request.call?.toList)),
        (connection.begin handler now message).2.noting notes) := by
  unfold begin
  simp only
  split
  · split
    · rfl
    · rfl
  · have performs := handler.perform_noted message.request connection.memory notes
    have memory : (connection.noting notes).memory = (connection.memory, notes) := rfl
    rw [memory, performs]
    rfl

end Connection

theorem Exchange.answer_noting (now : Nat) (question : Streaming.Question) (outside : ω)
    (stream : SearchStream) (connection : Connection σ) :
    answer environment now question ⟨outside, stream, connection.noting notes⟩ =
      let told := answer environment now question ⟨outside, stream, connection⟩
      (told.1, ⟨told.2.outside, told.2.stream, told.2.connection.noting notes⟩) := by
  cases question with
  | backend => rfl
  | isClosed => rfl
  | send entry =>
    have writer : (connection.noting notes).writer = connection.writer := rfl
    simp only [answer, send, writer]
    generalize stream.send Writer.sink now entry connection.writer = sent
    obtain ⟨outcome, stream, writer⟩ := sent
    cases outcome with
    | ok => rfl
    | error => rfl

theorem Task.step_noting (environment : Environment ω) (notes later : List Handler.Call) (now : Nat)
    (task : Task σ) (outside : ω) (connection : Connection σ) :
    (task.noting later).step environment now outside (connection.noting notes) =
      match task.step environment now outside connection with
      | (.waiting, outside, connection) => (.waiting, outside, connection.noting notes)
      | (.running next, outside, connection) =>
          (.running (next.noting later), outside, connection.noting notes)
      | (.finished flow, outside, connection) =>
          (.finished flow, outside, connection.noting later) := by
  have noting : (task.noting later).program = task.program.mapMemory fun after => (after, later) :=
    rfl
  cases program : task.program with
  | done memory outcome =>
    rw [program] at noting
    rw [step_of_done program, step_of_done noting, Connection.conclude_noting]
  | crash memory reason =>
    rw [program] at noting
    rw [step_of_crash program, step_of_crash noting, Connection.conclude_noting]
  | wait next =>
    rw [program] at noting
    simp only [step, program, noting, Program.mapMemory]
  | ask question next =>
    rw [program] at noting
    rw [step_of_ask program, step_of_ask noting]
    simp only [Exchange.answer_noting]
    rfl

theorem Task.wake_noting (task : Task σ) :
    (task.noting later).wake = task.wake.noting later := by
  have noting : (task.noting later).program = task.program.mapMemory fun after => (after, later) :=
    rfl
  unfold wake
  rw [noting]
  cases program : task.program with
  | wait next => rfl
  | done | crash | ask =>
    simp only [Program.mapMemory]

namespace Underway

variable {handler : Handler σ} {message : Message} {start : Connection σ}
  {before after reached : Underway σ} {flow : Flow}

theorem Moves.noting (h : before.Moves environment after) :
    (before.noting notes later).Moves environment (after.noting notes later) := by
  cases h with
  | @stepped outside _ _ _ steps =>
    have noted := Task.step_noting environment notes later before.now before.task outside
      before.connection
    rw [steps] at noted
    exact .stepped noted
  | woken =>
    have wakes : (before.noting notes later).Moves environment _ := .woken
    rw [show (before.noting notes later).task.wake = _ from Task.wake_noting before.task] at wakes
    exact wakes
  | elapsed milliseconds => exact .elapsed milliseconds
  | failed operation error => exact .failed operation error
  | clientLeft => exact .clientLeft

theorem exists_of_moves_noting {noted : Underway (σ × List Handler.Call)}
    (h : (before.noting notes later).Moves environment noted) :
    ∃ after, noted = after.noting notes later ∧ before.Moves environment after := by
  cases h with
  | @stepped outside _ _ _ steps =>
    have plain := Task.step_noting environment notes later before.now before.task outside
      before.connection
    replace steps := plain.symm.trans steps
    generalize step : before.task.step environment before.now outside before.connection = result
      at steps
    obtain ⟨progress, outside', connection⟩ := result
    cases progress with
    | waiting => cases steps
    | finished flow => cases steps
    | running next =>
      cases steps
      exact ⟨_, rfl, .stepped step⟩
  | woken =>
    refine ⟨_, ?_, .woken⟩
    rw [show (before.noting notes later).task.wake = _ from Task.wake_noting before.task]
    rfl
  | elapsed milliseconds => exact ⟨_, rfl, .elapsed milliseconds⟩
  | failed operation error => exact ⟨_, rfl, .failed operation error⟩
  | clientLeft => exact ⟨_, rfl, .clientLeft⟩

theorem Ends.noting {last : Underway σ} {final : Connection σ}
    (h : last.Ends environment flow final) :
    (last.noting notes later).Ends environment flow (final.noting later) := by
  obtain ⟨outside, outside', steps⟩ := h
  have noted := Task.step_noting environment notes later last.now last.task outside last.connection
  rw [steps] at noted
  exact ⟨outside, outside', noted⟩

theorem exists_of_ends_noting {last : Underway σ} {noted : Connection (σ × List Handler.Call)}
    (h : (last.noting notes later).Ends environment flow noted) :
    ∃ final, noted = final.noting later ∧ last.Ends environment flow final := by
  obtain ⟨outside, outside', steps⟩ := h
  have plain := Task.step_noting environment notes later last.now last.task outside last.connection
  replace steps := plain.symm.trans steps
  generalize step : last.task.step environment last.now outside last.connection = result at steps
  obtain ⟨progress, outside', connection⟩ := result
  cases progress with
  | waiting => cases steps
  | running next => cases steps
  | finished flow =>
    cases steps
    exact ⟨connection, rfl, outside, outside', step⟩

theorem arises_noting_iff {noted : Underway (σ × List Handler.Call)} :
    noted.Arises handler.noted environment message (start.noting notes) ↔
      ∃ reached : Underway σ,
        noted = reached.noting notes (notes ++ message.request.call?.toList) ∧
          reached.Arises handler environment message start := by
  constructor
  · intro arises
    induction arises with
    | @begun now task opened begins =>
      rw [Connection.begin_noting] at begins
      generalize plain : start.begin handler now message = begun at begins
      obtain ⟨flow | task, connection⟩ := begun
      · cases begins
      · cases begins
        exact ⟨⟨now, task, connection⟩, rfl, .begun plain⟩
    | moved _ moves ih =>
      obtain ⟨reached, rfl, arises⟩ := ih
      obtain ⟨after, rfl, goes⟩ := exists_of_moves_noting moves
      exact ⟨after, rfl, .moved arises goes⟩
  · rintro ⟨reached, rfl, arises⟩
    induction arises with
    | @begun now task opened begins =>
      refine .begun ?_
      rw [Connection.begin_noting, begins]
      rfl
    | moved _ moves ih => exact .moved ih moves.noting

/-- A handler that notes its calls comes to the same end, and then it has noted the one call
that the request is for. -/
theorem dispatches_noting_iff {noted : Connection (σ × List Handler.Call)} :
    Dispatches handler.noted environment message (start.noting notes) flow noted ↔
      ∃ final : Connection σ, noted = final.noting (notes ++ message.request.call?.toList) ∧
        Dispatches handler environment message start flow final := by
  constructor
  · rintro (⟨now, begins⟩ | ⟨arises, ends⟩)
    · rw [Connection.begin_noting] at begins
      generalize plain : start.begin handler now message = begun at begins
      obtain ⟨flow | task, connection⟩ := begun
      · cases begins
        refine ⟨connection, ?_, .atOnce now plain⟩
        rw [Request.call?_of_unanswered (Connection.begin_unanswered plain), Option.toList_none,
          List.append_nil]
      · cases begins
    · obtain ⟨last, rfl, plain⟩ := arises_noting_iff.1 arises
      obtain ⟨final, rfl, concludes⟩ := exists_of_ends_noting ends
      exact ⟨final, rfl, .afterwards plain concludes⟩
  · rintro ⟨final, rfl, ⟨now, begins⟩ | ⟨arises, ends⟩⟩
    · refine .atOnce now ?_
      rw [Connection.begin_noting, begins,
        Request.call?_of_unanswered (Connection.begin_unanswered begins), Option.toList_none,
        List.append_nil]
      rfl
    · exact .afterwards (arises_noting_iff.2 ⟨_, rfl, arises⟩) ends.noting

end Underway

end LdapService

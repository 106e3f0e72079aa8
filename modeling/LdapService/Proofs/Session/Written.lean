import Mathlib.Data.List.Infix
import LdapService.Proofs.Session.Serving

/-!
What has been written stays written: whatever a session does, it only adds frames
behind those that are there.
-/

namespace LdapService

theorem Transport.write_grows (frame : Octets) (transport : Transport) :
    transport.written <+: (transport.write frame).2.written := by
  unfold write
  split
  · exact List.prefix_rfl
  · split
    · exact List.prefix_rfl
    · exact List.prefix_append _ _

theorem Transport.flush_written (transport : Transport) :
    transport.flush.2.written = transport.written := by
  unfold flush
  split
  · rfl
  · rfl

namespace Writer

theorem transmit_grows (frame : Octets) (transport : Transport) :
    transport.written <+: (transmit frame transport).2.written := by
  have grows := transport.write_grows frame
  unfold transmit
  split
  · next failed =>
    rw [failed] at grows
    exact grows
  · next sent =>
    rw [sent] at grows
    rwa [Transport.flush_written]

theorem write_grows (frame : Octets) (writer : Writer) :
    writer.transport.written <+: (writer.write frame).2.transport.written := by
  have grows := transmit_grows frame writer.transport
  unfold write
  split
  · exact List.prefix_rfl
  · split
    · next sent =>
      rw [sent] at grows
      exact grows
    · next failed =>
      rw [failed] at grows
      exact grows

theorem transmit_written (frame : Octets) (transport : Transport) :
    (transmit frame transport).2.written = (transport.write frame).2.written := by
  unfold transmit
  split
  · next failed => rw [failed]
  · next sent =>
    rw [sent]
    exact Transport.flush_written _

theorem write_of_closed {writer : Writer} (closed : writer.isClosed = true) (frame : Octets) :
    writer.write frame = (.error .connectionClosed, writer) := by
  rw [write, if_pos closed]

theorem write_transport {writer : Writer} (open_ : writer.isClosed = false) (frame : Octets) :
    (writer.write frame).2.transport = (transmit frame writer.transport).2 := by
  rw [write, open_, if_neg Bool.false_ne_true]
  split
  · next sent => rw [sent]
  · next failed => rw [failed]

def Takes (writer : Writer) : Prop :=
  writer.isClosed = false ∧ writer.transport.writeError = none

theorem write_written {frame : Octets} (nonempty : frame ≠ []) (writer : Writer) :
    writer.Takes ∧ (writer.write frame).2.transport.written = writer.transport.written ++ [frame] ∨
      ¬writer.Takes ∧ (writer.write frame).2.transport.written = writer.transport.written := by
  unfold Takes
  cases closed : writer.isClosed with
  | true =>
    rw [write_of_closed closed]
    exact .inr ⟨fun takes => (nomatch takes.1), rfl⟩
  | false =>
    rw [write_transport closed, transmit_written, Transport.write, if_neg nonempty]
    cases writer.transport.writeError with
    | some error => exact .inr ⟨fun takes => (nomatch takes.2), rfl⟩
    | none => exact .inl ⟨⟨rfl, rfl⟩, rfl⟩

theorem shutDown_written (writer : Writer) :
    writer.shutDown.transport.written = writer.transport.written := by
  unfold shutDown
  split
  · rfl
  · rfl

end Writer

theorem SearchStream.send_writer (now : Nat) (entry : Entry) (stream : SearchStream)
    (writer : Writer) :
    (stream.send Writer.sink now entry writer).2.2 = writer ∨
      (stream.send Writer.sink now entry writer).2.2 = (writer.write (stream.frame entry)).2 := by
  unfold send
  split
  · exact .inl rfl
  · refine .inr ?_
    simp only [Writer.sink]
    split
    · next sent => rw [sent]
    · next failed => rw [failed]

theorem SearchStream.send_grows (now : Nat) (entry : Entry) (stream : SearchStream)
    (writer : Writer) :
    writer.transport.written <+:
      (stream.send Writer.sink now entry writer).2.2.transport.written := by
  rcases stream.send_writer now entry writer with same | wrote
  · rw [same]
  · rw [wrote]
    exact writer.write_grows _

def Connection.written {σ : Type} (connection : Connection σ) : List Octets :=
  connection.writer.transport.written

namespace Connection

variable {σ : Type}

theorem finish_writer (frame : Octets) (connection : Connection σ) :
    (connection.finish frame).2.writer = (connection.writer.write frame).2 := by
  unfold finish
  by_cases closed : connection.writer.isClosed = true
  · rw [if_pos closed, Writer.write_of_closed closed]
    rfl
  · rw [if_neg closed]
    split
    · next sent => rw [sent]
    · next failed => rw [failed]

theorem finish_grows (frame : Octets) (connection : Connection σ) :
    connection.written <+: (connection.finish frame).2.written := by
  rw [written, written, finish_writer]
  exact connection.writer.write_grows frame

theorem reject_grows (error : DecodeError) (connection : Connection σ) :
    connection.written <+: (connection.reject error).2.written := by
  cases error with
  | malformed reason => exact connection.writer.write_grows _
  | refused refusal =>
    exact finish_grows _ { connection.observe (.decodeError false) with stage := .completed }

theorem conclude_grows (task : Task σ) (memory : σ) (outcome : Except Failure Reply)
    (connection : Connection σ) :
    connection.written <+: (connection.conclude task memory outcome).2.written :=
  finish_grows _ (({ connection with memory, stage := .completed } : Connection σ).observe
    (.operation task.kind.name (answerOf task outcome).1))

end Connection

theorem Exchange.send_writer {ω σ : Type} (now : Nat) (entry : Entry) (exchange : Exchange ω σ) :
    (exchange.send now entry).2.connection.writer =
      (exchange.stream.send Writer.sink now entry exchange.connection.writer).2.2 := by
  unfold send
  simp only
  split
  · rfl
  · rfl

theorem Exchange.answer_grows {ω σ : Type} (environment : Environment ω) (now : Nat)
    (question : Streaming.Question) (exchange : Exchange ω σ) :
    exchange.connection.written <+:
      (exchange.answer environment now question).2.connection.written := by
  cases question with
  | backend question => exact List.prefix_rfl
  | isClosed => exact List.prefix_rfl
  | send entry =>
    change _ <+: (Exchange.send now entry exchange).2.connection.written
    rw [Connection.written, Connection.written, send_writer]
    exact exchange.stream.send_grows now entry exchange.connection.writer

theorem Task.step_grows {ω σ : Type} (environment : Environment ω) (now : Nat) (task : Task σ)
    (outside : ω) (connection : Connection σ) :
    connection.written <+: (task.step environment now outside connection).2.2.written := by
  unfold step
  split
  · exact Connection.conclude_grows _ _ _ _
  · exact Connection.conclude_grows _ _ _ _
  · exact List.prefix_rfl
  · next question _ _ =>
    exact Exchange.answer_grows environment now question
      { outside, stream := task.stream, connection }

namespace Session

variable {ω σ : Type}

def written (session : Session σ) : List Octets :=
  session.connection.written

theorem finish_written (result : Except ServiceError Unit) (session : Session σ) :
    (session.finish result).written = session.written :=
  session.connection.writer.shutDown_written

theorem follow_written (flow : Flow) (session : Session σ) :
    (session.follow flow).written = session.written := by
  cases flow with
  | proceed => rfl
  | close => exact finish_written _ _

theorem reject_grows (error : DecodeError) (session : Session σ) :
    session.written <+: (session.reject error).written := by
  unfold reject
  rw [follow_written]
  exact Connection.reject_grows error session.connection

theorem takeMessage_written {frame : Octets} {message : Message}
    (decoded : Message.decode frame = .ok message) (handler : Handler σ) (now : Nat)
    (session : Session σ) :
    (session.takeMessage handler now frame).written = session.written := by
  have begun := Connection.begin_writer handler now message
    { session.connection with stage := .decoding }
  simp only [takeMessage, decoded]
  generalize Connection.begin handler now message { session.connection with stage := .decoding } =
    taken at begun
  have same : taken.2.writer = session.connection.writer := begun
  obtain ⟨flow | task, connection⟩ := taken
  · rw [written, written, Connection.written, Connection.written, same]
  · rw [written, written, Connection.written, Connection.written, same]

theorem takeMessage_grows (handler : Handler σ) (now : Nat) (frame : Octets)
    (session : Session σ) : session.written <+: (session.takeMessage handler now frame).written := by
  cases decoded : Message.decode frame with
  | error error =>
    simp only [takeMessage, decoded]
    exact reject_grows _ { session with connection.stage := .decoding }
  | ok message =>
    rw [takeMessage_written decoded]

theorem next_grows (handler : Handler σ) (now : Nat) (signal : Signal) (session : Session σ) :
    session.written <+: (session.next handler now signal).written := by
  unfold next
  split
  · rw [finishRead, finish_written]
  · split
    · rw [finishShutdown, finish_written]
      exact session.connection.writer.write_grows _
    · split
      · exact reject_grows _ session
      · exact List.prefix_rfl
      · next rest _ => exact takeMessage_grows handler now _ { session with buffer := rest }

theorem step_grows {handler : Handler σ} {environment : Environment ω} {now : Nat}
    {signal : Signal} {outside outside' : ω} {session session' : Session σ}
    (steps : session.step handler environment now signal outside = some (outside', session')) :
    session.written <+: session'.written := by
  unfold step at steps
  split at steps
  · cases steps
    exact next_grows _ _ _ _
  · split at steps
    · cases steps
    · cases steps
      rw [finishShutdown, finish_written]
      exact session.connection.writer.write_grows _
  · next task _ =>
    have grows := task.step_grows environment now outside session.connection
    split at steps
    · cases steps
    · next stepped =>
      rw [stepped] at grows
      cases steps
      exact grows
    · next stepped =>
      rw [stepped] at grows
      cases steps
      exact grows
  · cases steps
    rw [follow_written]
  · cases steps
  · cases steps

theorem wake_written (session : Session σ) : session.wake.written = session.written := by
  unfold wake
  split
  · rfl
  · rfl

end Session

end LdapService

import LdapService.Proofs.Session.Fates
import LdapService.Proofs.Session.Written

/-!
What a session does when its transport is gone: nothing that could be seen. A reader
that finds the client gone and a write that fails close the writer, each with a flag
of its own; from either one on, the session is cut off. Its handler may go on, but
what it sends is refused, nothing is written, and no message is taken up.
-/

namespace LdapService

/-- Between two states an error that waited for a write or a flush has struck. -/
def Transport.Struck (before after : Transport) : Prop :=
  before.writeError.isSome = true ∧ after.writeError = none ∨
    before.flushError.isSome = true ∧ after.flushError = none

structure Transport.WaitsAlike (before after : Transport) : Prop where
  write : after.writeError = before.writeError
  flush : after.flushError = before.flushError

namespace Transport

theorem WaitsAlike.not_struck {before after : Transport} (h : before.WaitsAlike after) :
    ¬before.Struck after := by
  rintro (⟨waited, struck⟩ | ⟨waited, struck⟩)
  · rw [← h.write, struck] at waited
    cases waited
  · rw [← h.flush, struck] at waited
    cases waited

theorem waitsAlike_self (transport : Transport) : transport.WaitsAlike transport := ⟨rfl, rfl⟩

theorem waitsAlike_of_write {frame : Octets} {transport transport' : Transport}
    (sent : transport.write frame = (.ok (), transport')) : transport.WaitsAlike transport' := by
  unfold write at sent
  split at sent
  · cases sent
    exact transport.waitsAlike_self
  · split at sent
    · cases sent
    · cases sent
      exact ⟨rfl, rfl⟩

theorem eq_of_flush {transport transport' : Transport}
    (flushed : transport.flush = (.ok (), transport')) : transport' = transport := by
  unfold flush at flushed
  split at flushed
  · cases flushed
  · cases flushed
    rfl

end Transport

namespace Writer

theorem shutDown_waitsAlike (writer : Writer) :
    writer.transport.WaitsAlike writer.shutDown.transport := by
  unfold shutDown
  split
  · exact writer.transport.waitsAlike_self
  · exact ⟨rfl, rfl⟩

theorem shutDown_closed (writer : Writer) : writer.shutDown.closed = true := by
  unfold shutDown
  split
  · assumption
  · rfl

theorem isClosed_of_closed {writer : Writer} (closed : writer.closed = true) :
    writer.isClosed = true := by
  rw [isClosed, closed, Bool.true_or]

theorem waitsAlike_of_transmit {frame : Octets} {transport transport' : Transport}
    (sent : transmit frame transport = (.ok (), transport')) :
    transport.WaitsAlike transport' := by
  unfold transmit at sent
  split at sent
  · cases sent
  · next between wrote =>
    rw [Transport.eq_of_flush sent]
    exact Transport.waitsAlike_of_write wrote

theorem write_cases (frame : Octets) (writer : Writer) :
    (writer.write frame).1 = .ok () ∧
        ¬writer.transport.Struck (writer.write frame).2.transport ∨
      (∃ error, (writer.write frame).1 = .error error) ∧
        (writer.write frame).2.isClosed = true := by
  cases closed : writer.isClosed with
  | true =>
    rw [write_of_closed closed]
    exact .inr ⟨⟨_, rfl⟩, closed⟩
  | false =>
    rw [write, closed, if_neg Bool.false_ne_true]
    split
    · next transport sent => exact .inl ⟨rfl, (waitsAlike_of_transmit sent).not_struck⟩
    · exact .inr ⟨⟨_, rfl⟩, isClosed_of_closed rfl⟩

end Writer

namespace Session

variable {ω σ : Type}

def transport (session : Session σ) : Transport :=
  session.connection.writer.transport

/-- Cut off from its client, and aware of it before it looks for a message. -/
structure IsCutOff (session : Session σ) : Prop where
  closed : session.connection.writer.isClosed = true
  awake : session.phase ≠ .idle
  seen : session.IsFree → session.connection.writer.peerGone = true

variable {session : Session σ}

theorem finish_isCutOff (result : Except ServiceError Unit) (session : Session σ) :
    (session.finish result).IsCutOff :=
  ⟨Writer.isClosed_of_closed session.connection.writer.shutDown_closed, by simp [finish],
    by simp [IsFree, finish]⟩

theorem finish_waitsAlike (result : Except ServiceError Unit) (session : Session σ) :
    session.transport.WaitsAlike (session.finish result).transport :=
  session.connection.writer.shutDown_waitsAlike

/-- A session that goes on after a failure does so cut off. -/
def Falls (session session' : Session σ) : Prop :=
  session.transport.Struck session'.transport → session'.IsCutOff

theorem follow_falls {flow : Flow} {connection : Connection σ} (session : Session σ)
    (proceeds : flow = .proceed → ¬session.transport.Struck connection.writer.transport) :
    session.Falls ({ session with connection }.follow flow) := by
  cases flow with
  | proceed => exact fun struck => absurd struck (proceeds rfl)
  | close => exact fun _ => finish_isCutOff _ _

theorem settled_falls {flow : Flow} {connection : Connection σ} (session : Session σ)
    (closes : session.transport.Struck connection.writer.transport →
      flow = .close ∧ connection.writer.isClosed = true) :
    session.Falls { session with connection, phase := .settled flow } := by
  intro struck
  obtain ⟨rfl, closed⟩ := closes struck
  exact ⟨closed, by simp, by simp [IsFree]⟩

end Session

namespace Connection

variable {σ : Type}

theorem finish_struck {frame : Octets} {connection : Connection σ}
    (struck : connection.writer.transport.Struck (connection.finish frame).2.writer.transport) :
    (connection.finish frame).1 = .close ∧
      (connection.finish frame).2.writer.isClosed = true := by
  rw [finish_writer] at struck ⊢
  rcases connection.writer.write_cases frame with ⟨-, calm⟩ | ⟨⟨error, failed⟩, closed⟩
  · exact absurd struck calm
  · refine ⟨?_, closed⟩
    unfold finish
    split
    · rfl
    · split
      · next sent =>
        rw [sent] at failed
        cases failed
      · rfl

theorem finish_proceeds {frame : Octets} {connection : Connection σ}
    (proceeds : (connection.finish frame).1 = .proceed) :
    ¬connection.writer.transport.Struck (connection.finish frame).2.writer.transport :=
  fun struck => nomatch proceeds.symm.trans (finish_struck struck).1

theorem conclude_struck {task : Task σ} {memory : σ} {outcome : Except Failure Reply}
    {connection : Connection σ} (struck : connection.writer.transport.Struck
      (connection.conclude task memory outcome).2.writer.transport) :
    (connection.conclude task memory outcome).1 = .close ∧
      (connection.conclude task memory outcome).2.writer.isClosed = true :=
  finish_struck struck

theorem finish_of_closed {connection : Connection σ} (closed : connection.writer.isClosed = true)
    (frame : Octets) : connection.finish frame = (.close, connection.close) := by
  rw [finish, if_pos closed]

theorem conclude_of_closed {connection : Connection σ}
    (closed : connection.writer.isClosed = true) (task : Task σ) (memory : σ)
    (outcome : Except Failure Reply) :
    (connection.conclude task memory outcome).1 = .close ∧
      (connection.conclude task memory outcome).2.writer = connection.writer := by
  have still : (({ connection with memory, stage := .completed } : Connection σ).observe
      (.operation task.kind.name (answerOf task outcome).1)).writer.isClosed = true := closed
  have answered := finish_of_closed still (answerOf task outcome).2
  exact ⟨congrArg Prod.fst answered, congrArg (·.2.writer) answered⟩

end Connection

namespace SearchStream

theorem send_of_closed {writer : Writer} (closed : writer.isClosed = true) (now : Nat)
    (entry : Entry) (stream : SearchStream) :
    stream.send Writer.sink now entry writer = (.error connectionClosed, stream, writer) := by
  simp only [send, refusal?, Writer.sink, closed, if_true]

theorem send_struck {writer : Writer} {now : Nat} {entry : Entry} {stream : SearchStream}
    (struck : writer.transport.Struck
      (stream.send Writer.sink now entry writer).2.2.transport) :
    (stream.send Writer.sink now entry writer).2.2.isClosed = true := by
  rcases stream.send_writer now entry writer with same | wrote
  · rw [same] at struck
    exact absurd struck writer.transport.waitsAlike_self.not_struck
  · rw [wrote] at struck ⊢
    rcases writer.write_cases (stream.frame entry) with ⟨-, calm⟩ | ⟨-, closed⟩
    · exact absurd struck calm
    · exact closed

end SearchStream

namespace Exchange

variable {ω σ : Type}

theorem answer_struck (environment : Environment ω) (now : Nat) (question : Streaming.Question)
    (exchange : Exchange ω σ) (struck : exchange.connection.writer.transport.Struck
      (exchange.answer environment now question).2.connection.writer.transport) :
    (exchange.answer environment now question).2.connection.writer.isClosed = true := by
  have still := exchange.connection.writer.transport.waitsAlike_self.not_struck
  cases question with
  | backend => exact absurd struck still
  | isClosed => exact absurd struck still
  | send entry =>
    change exchange.connection.writer.transport.Struck
      (exchange.send now entry).2.connection.writer.transport at struck
    change (exchange.send now entry).2.connection.writer.isClosed = true
    rw [send_writer] at struck ⊢
    exact SearchStream.send_struck struck

theorem answer_of_closed {exchange : Exchange ω σ}
    (closed : exchange.connection.writer.isClosed = true) (environment : Environment ω)
    (now : Nat) (question : Streaming.Question) :
    (exchange.answer environment now question).2.connection.writer =
      exchange.connection.writer := by
  cases question with
  | backend => rfl
  | isClosed => rfl
  | send entry =>
    change (exchange.send now entry).2.connection.writer = _
    rw [send_writer, SearchStream.send_of_closed closed]

end Exchange

namespace Task

variable {ω σ : Type}

/-- A task after a failure: it is under way with a closed writer, or it ends the session. -/
theorem step_falls (environment : Environment ω) (now : Nat) (task : Task σ) (outside : ω)
    (connection : Connection σ) :
    match task.step environment now outside connection with
    | (.waiting, _, _) => True
    | (.running _, _, connection') =>
        connection.writer.transport.Struck connection'.writer.transport →
          connection'.writer.isClosed = true
    | (.finished flow, _, connection') =>
        connection.writer.transport.Struck connection'.writer.transport →
          flow = .close ∧ connection'.writer.isClosed = true := by
  cases program : task.program with
  | done memory outcome =>
    rw [step_of_done program]
    exact Connection.conclude_struck
  | crash memory reason =>
    simp only [step, program]
    exact Connection.conclude_struck
  | wait next => simp only [step, program]
  | ask question next =>
    rw [step_of_ask program]
    exact Exchange.answer_struck environment now question
      { outside, stream := task.stream, connection }

/-- With a closed writer a task does nothing to it, and its end is the end of the session. -/
theorem step_of_closed {connection : Connection σ} (closed : connection.writer.isClosed = true)
    (environment : Environment ω) (now : Nat) (task : Task σ) (outside : ω) :
    match task.step environment now outside connection with
    | (.waiting, _, _) => True
    | (.running _, _, connection') => connection'.writer = connection.writer
    | (.finished flow, _, connection') =>
        flow = .close ∧ connection'.writer = connection.writer := by
  cases program : task.program with
  | done memory outcome =>
    rw [step_of_done program]
    exact Connection.conclude_of_closed closed task memory outcome
  | crash memory reason =>
    simp only [step, program]
    exact Connection.conclude_of_closed closed task memory (.error .serverError)
  | wait next => simp only [step, program]
  | ask question next =>
    rw [step_of_ask program]
    exact Exchange.answer_of_closed closed environment now question

end Task

namespace Session

variable {ω σ : Type} {session session' : Session σ} {handler : Handler σ}
  {environment : Environment ω} {now : Nat} {signal : Signal} {outside outside' : ω}

theorem reject_falls (error : DecodeError) (session : Session σ) :
    session.Falls (session.reject error) := by
  cases error with
  | malformed reason => exact fun _ => finish_isCutOff _ _
  | refused refusal => exact follow_falls session Connection.finish_proceeds

theorem takeMessage_falls (handler : Handler σ) (now : Nat) (frame : Octets)
    (session : Session σ) : session.Falls (session.takeMessage handler now frame) := by
  unfold takeMessage
  simp only
  split
  · exact reject_falls _ { session with connection.stage := .decoding }
  · next message _ =>
    have begun := Connection.begin_writer handler now message
      { session.connection with stage := .decoding }
    have still := session.transport.waitsAlike_self.not_struck
    split
    · next flow connection taken =>
      rw [taken] at begun
      have same : connection.writer = session.connection.writer := begun
      refine settled_falls session fun struck => absurd struck ?_
      rw [same]
      exact still
    · next task connection taken =>
      rw [taken] at begun
      have same : connection.writer = session.connection.writer := begun
      intro struck
      rw [transport, transport, same] at struck
      exact absurd struck still

theorem next_falls (handler : Handler σ) (now : Nat) (signal : Signal) (session : Session σ) :
    session.Falls (session.next handler now signal) := by
  unfold next
  split
  · exact fun _ => finish_isCutOff _ _
  · split
    · exact fun _ => finish_isCutOff _ _
    · split
      · exact reject_falls _ _
      · exact fun struck => absurd struck session.transport.waitsAlike_self.not_struck
      · next rest _ => exact takeMessage_falls handler now _ { session with buffer := rest }

theorem step_falls
    (steps : session.step handler environment now signal outside = some (outside', session')) :
    session.Falls session' := by
  unfold step at steps
  split at steps
  · cases steps
    exact next_falls _ _ _ _
  · split at steps
    · cases steps
    · cases steps
      exact fun _ => finish_isCutOff _ _
  · next task _ =>
    have falls := task.step_falls environment now outside session.connection
    split at steps
    · cases steps
    · next stepped =>
      rw [stepped] at falls
      cases steps
      exact fun struck => ⟨falls struck, by simp, by simp [IsFree]⟩
    · next stepped =>
      rw [stepped] at falls
      cases steps
      exact settled_falls session falls
  · cases steps
    exact follow_falls session fun _ => session.transport.waitsAlike_self.not_struck
  · cases steps
  · cases steps

/-- Cut off, a session neither writes nor tries to, and it stays cut off. -/
theorem IsCutOff.step (h : session.IsCutOff)
    (steps : session.step handler environment now signal outside = some (outside', session')) :
    session'.IsCutOff ∧ session.transport.WaitsAlike session'.transport ∧
      session'.written = session.written := by
  unfold Session.step at steps
  split at steps
  · next ready =>
    cases steps
    unfold next
    rw [if_pos (h.seen (.inl ready))]
    exact ⟨finish_isCutOff _ _, finish_waitsAlike _ _, finish_written _ _⟩
  · next idle => exact absurd idle h.awake
  · next task busy =>
    have same := task.step_of_closed h.closed environment now outside
    split at steps
    · cases steps
    · next connection stepped =>
      rw [stepped] at same
      have writer : connection.writer = session.connection.writer := same
      cases steps
      refine ⟨⟨?_, by simp, by simp [IsFree]⟩, ?_, ?_⟩
      · rw [writer]
        exact h.closed
      · rw [transport, transport, writer]
        exact session.transport.waitsAlike_self
      · rw [written, written, Connection.written, Connection.written, writer]
    · next flow connection stepped =>
      rw [stepped] at same
      obtain ⟨rfl, same⟩ := same
      have writer : connection.writer = session.connection.writer := same
      cases steps
      refine ⟨⟨?_, by simp, by simp [IsFree]⟩, ?_, ?_⟩
      · rw [writer]
        exact h.closed
      · rw [transport, transport, writer]
        exact session.transport.waitsAlike_self
      · rw [written, written, Connection.written, Connection.written, writer]
  · next flow settled =>
    cases steps
    refine ⟨?_, ?_, follow_written flow session⟩
    · cases flow with
      | proceed => exact ⟨h.closed, by simp [follow], fun _ => h.seen (.inr settled)⟩
      | close => exact finish_isCutOff _ _
    · cases flow with
      | proceed => exact session.transport.waitsAlike_self
      | close => exact finish_waitsAlike _ _
  · cases steps
  · cases steps

theorem IsCutOff.frame?_eq_none (h : session.IsCutOff) (signal : Signal) :
    session.frame? signal = none := by
  cases takes : session.frame? signal with
  | none => rfl
  | some frame =>
    obtain ⟨ready, present, -⟩ := frame?_eq_some takes
    rw [h.seen (.inl ready)] at present
    cases present

theorem IsCutOff.turn?_sent (h : session.IsCutOff) {entry : Entry} {outcome : Except Failure Unit}
    (turn : session.turn? now = some (.sent entry outcome)) :
    outcome = .error SearchStream.connectionClosed := by
  unfold turn? at turn
  split at turn
  · next task busy =>
    unfold Task.turn? at turn
    split at turn
    · cases turn
    · cases turn
    · rw [SearchStream.send_of_closed h.closed] at turn
      cases turn
      rfl
    · cases turn
  · cases turn

theorem awaken_isCutOff (gone : session.connection.writer.peerGone = true) :
    session.awaken.IsCutOff := by
  have closed : session.connection.writer.isClosed = true := by
    rw [Writer.isClosed, gone, Bool.or_true]
  unfold awaken
  split
  · exact ⟨closed, nofun, fun _ => gone⟩
  · next awake => exact ⟨closed, awake, fun _ => gone⟩

theorem awaken_transport (session : Session σ) : session.awaken.transport = session.transport := by
  unfold awaken
  split
  · rfl
  · rfl

theorem read_transport {changed : Session σ} (same : changed.transport = session.transport)
    (reads : Bool) :
    (if reads then changed.awaken else session).transport = session.transport := by
  split
  · rw [awaken_transport, same]
  · rfl

theorem hangUp_isCutOff (reads : session.isReading = true) : session.hangUp.IsCutOff := by
  rw [hangUp, if_pos reads]
  exact awaken_isCutOff rfl

theorem readFailed_isCutOff (reads : session.isReading = true) (error : IoError) :
    (session.readFailed error).IsCutOff := by
  rw [readFailed, if_pos reads]
  exact awaken_isCutOff rfl

/-- Between two states nothing was written and nothing has struck, and it stays so. -/
structure IsSilentTo (session session' : Session σ) : Prop where
  cutOff : session'.IsCutOff
  calm : ¬session.transport.Struck session'.transport
  written : session'.written = session.written

theorem IsSilentTo.of_transport (cutOff : session'.IsCutOff)
    (same : session'.transport = session.transport) : session.IsSilentTo session' := by
  refine ⟨cutOff, ?_, ?_⟩
  · rw [same]
    exact session.transport.waitsAlike_self.not_struck
  · exact congrArg Transport.written same

namespace IsCutOff

variable (h : session.IsCutOff)

include h

theorem still : session.IsSilentTo session := .of_transport h rfl

theorem awaken : session.awaken.IsCutOff := by
  unfold Session.awaken
  split
  · next idle => exact absurd idle h.awake
  · exact h

theorem read {changed : Session σ} (cutOff : changed.awaken.IsCutOff)
    (same : changed.transport = session.transport) (reads : Bool) :
    session.IsSilentTo (if reads then changed.awaken else session) := by
  refine .of_transport ?_ (read_transport same reads)
  split
  · exact cutOff
  · exact h

theorem receive (octets : Octets) : session.IsSilentTo (session.receive octets) := by
  have longer : ({ session with buffer := session.buffer ++ octets } : Session σ).IsCutOff :=
    ⟨h.closed, h.awake, h.seen⟩
  exact h.read longer.awaken rfl _

theorem hangUp : session.IsSilentTo session.hangUp := by
  apply h.read
  · exact awaken_isCutOff rfl
  · rfl

theorem readFailed (error : IoError) : session.IsSilentTo (session.readFailed error) := by
  apply h.read
  · exact awaken_isCutOff rfl
  · rfl

theorem failTransport (operation : Transport.Operation) (error : IoError) :
    session.IsSilentTo (session.failTransport operation error) := by
  refine ⟨⟨h.closed, h.awake, h.seen⟩, ?_, ?_⟩
  · cases operation with
    | write =>
      rintro (⟨-, struck⟩ | ⟨waited, struck⟩)
      · cases struck
      · exact session.transport.waitsAlike_self.not_struck (.inr ⟨waited, struck⟩)
    | flush =>
      rintro (⟨waited, struck⟩ | ⟨-, struck⟩)
      · exact session.transport.waitsAlike_self.not_struck (.inl ⟨waited, struck⟩)
      · cases struck
    | shutDown =>
      exact Transport.WaitsAlike.not_struck ⟨rfl, rfl⟩
  · cases operation with
    | write => rfl
    | flush => rfl
    | shutDown => rfl

theorem advance (handler : Handler σ) (environment : Environment ω) (now : Nat) (signal : Signal)
    (outside : ω) :
    session.IsSilentTo (session.advance handler environment now signal outside) := by
  unfold Session.advance
  cases steps : session.step handler environment now signal outside with
  | none => exact h.still
  | some next =>
    obtain ⟨cutOff, alike, written⟩ := h.step steps
    exact ⟨cutOff, alike.not_struck, written⟩

theorem wake : session.IsSilentTo session.wake := by
  unfold Session.wake
  split
  · exact .of_transport ⟨h.closed, by simp, by simp [IsFree]⟩ rfl
  · exact h.still

theorem drop : session.IsSilentTo session.drop := by
  unfold Session.drop
  split
  · exact h.still
  · exact h.still
  · exact .of_transport ⟨h.closed, by simp, by simp [IsFree]⟩ rfl

end IsCutOff

end Session

namespace Service

variable {ω σ : Type} {number : Nat} {session : Session σ}

theorem become_isSilentTo (h : session.IsCutOff) (service : Service ω σ) (event : Event) :
    session.IsSilentTo (service.become number event session) := by
  by_cases address : event.number? = some number
  · rw [become_of_self address]
    cases event with
    | received _ octets => exact h.receive octets
    | hungUp => exact h.hangUp
    | readFailed _ error => exact h.readFailed error
    | transportFails _ operation error => exact h.failTransport operation error
    | stepped => exact h.advance _ _ _ _ _
    | woken => exact h.wake
    | dropped => exact h.drop
    | connected | signalled | elapsed => exact h.still
  · rw [become_of_other address]
    exact h.still

end Service

end LdapService

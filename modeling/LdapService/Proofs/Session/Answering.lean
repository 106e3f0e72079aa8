import LdapService.Proofs.Session.Blocks
import LdapService.Proofs.Session.Ledger
import LdapService.Proofs.Session.Notices
import LdapService.Proofs.Session.Silence

/-!
The answers that a connection writes. One is due whenever a handler has ended an
operation and whenever a message is refused, and it is written unless the transport was
lost before: the writer of a session that goes on is open until an error strikes or the
client is found to be gone.
-/

namespace LdapService

def Turn.isEnd (turn : Turn) : Bool := turn.code?.isSome

namespace Transport

theorem write_failed {frame : Octets} {error : IoError} {transport transport' : Transport}
    (failed : transport.write frame = (.error error, transport')) :
    transport.writeError.isSome = true ∧ transport'.writeError = none := by
  unfold write at failed
  split at failed
  · cases failed
  · split at failed
    · next waits =>
      cases failed
      exact ⟨by rw [waits]; rfl, rfl⟩
    · cases failed

theorem flush_failed {error : IoError} {transport transport' : Transport}
    (failed : transport.flush = (.error error, transport')) :
    transport.flushError.isSome = true ∧ transport'.flushError = none := by
  unfold flush at failed
  split at failed
  · next waits =>
    cases failed
    exact ⟨by rw [waits]; rfl, rfl⟩
  · cases failed

end Transport

namespace Writer

theorem struck_of_transmit {frame : Octets} {error : IoError} {transport transport' : Transport}
    (failed : transmit frame transport = (.error error, transport')) :
    transport.Struck transport' := by
  unfold transmit at failed
  split at failed
  · next wrote =>
    cases failed
    exact .inl (Transport.write_failed wrote)
  · next wrote =>
    obtain ⟨waited, struck⟩ := Transport.flush_failed failed
    rw [(Transport.waitsAlike_of_write wrote).flush] at waited
    exact .inr ⟨waited, struck⟩

theorem write_open {writer : Writer} (open_ : writer.isClosed = false) (frame : Octets) :
    (writer.write frame).2.isClosed = false ∨
      writer.transport.Struck (writer.write frame).2.transport := by
  rw [write, open_, if_neg Bool.false_ne_true]
  split
  · exact .inl open_
  · next failed => exact .inr (struck_of_transmit failed)

theorem write_or_fails {frame : Octets} (nonempty : frame ≠ []) {writer : Writer}
    (open_ : writer.isClosed = false) :
    (writer.write frame).2.transport.written = writer.transport.written ++ [frame] ∨
      writer.transport.writeError.isSome = true ∧
        (writer.write frame).2.transport.writeError = none := by
  rw [write_transport open_, transmit, Transport.write, if_neg nonempty]
  cases waits : writer.transport.writeError with
  | some error => exact .inr ⟨rfl, rfl⟩
  | none => exact .inl (Transport.flush_written _)

end Writer

namespace Connection

variable {σ : Type}

theorem finish_open {frame : Octets} {connection : Connection σ}
    (proceeds : (connection.finish frame).1 = .proceed) :
    (connection.finish frame).2.writer.isClosed = false := by
  have open_ : connection.writer.isClosed = false := by
    cases closed : connection.writer.isClosed with
    | false => rfl
    | true =>
      rw [finish_of_closed closed] at proceeds
      cases proceeds
  have calm := finish_proceeds proceeds
  rw [finish_writer] at calm ⊢
  exact (Writer.write_open open_ frame).resolve_right calm

theorem answerOf_ne_nil (task : Task σ) (outcome : Except Failure Reply) :
    (answerOf task outcome).2 ≠ [] := by
  cases outcome with
  | error => exact Response.message_ne_nil _ _
  | ok reply =>
    cases reply with
    | code => exact Response.message_ne_nil _ _
    | extended => exact Response.message_ne_nil _ _

end Connection

namespace Exchange

variable {ω σ : Type}

theorem answer_open {exchange : Exchange ω σ}
    (open_ : exchange.connection.writer.isClosed = false) (environment : Environment ω)
    (now : Nat) (question : Streaming.Question) :
    (exchange.answer environment now question).2.connection.writer.isClosed = false ∨
      exchange.connection.writer.transport.Struck
        (exchange.answer environment now question).2.connection.writer.transport := by
  cases question with
  | backend => exact .inl open_
  | isClosed => exact .inl open_
  | send entry =>
    change (exchange.send now entry).2.connection.writer.isClosed = false ∨
      exchange.connection.writer.transport.Struck
        (exchange.send now entry).2.connection.writer.transport
    rw [send_writer]
    rcases exchange.stream.send_writer now entry exchange.connection.writer with same | wrote
    · rw [same]
      exact .inl open_
    · rw [wrote]
      exact Writer.write_open open_ _

end Exchange

namespace Session

variable {ω σ : Type} {session session' : Session σ} {handler : Handler σ}
  {environment : Environment ω} {now : Nat} {signal : Signal} {outside outside' : ω}

/-- A session whose writer was open has it open still, or it is over, or an error has
struck. -/
def StaysOpen (session session' : Session σ) : Prop :=
  session'.connection.writer.isClosed = false ∨ session'.closing ≠ [] ∨
    session.transport.Struck session'.transport

theorem follow_staysOpen {flow : Flow} {connection : Connection σ} (session : Session σ)
    (proceeds : flow = .proceed → connection.writer.isClosed = false) :
    session.StaysOpen ({ session with connection }.follow flow) := by
  cases flow with
  | proceed => exact .inl (proceeds rfl)
  | close => exact .inr (.inl (List.cons_ne_nil _ _))

theorem reject_staysOpen (error : DecodeError) (session : Session σ) :
    session.StaysOpen (session.reject error) := by
  cases error with
  | malformed reason => exact .inr (.inl (List.cons_ne_nil _ _))
  | refused refusal => exact follow_staysOpen session Connection.finish_open

theorem takeMessage_staysOpen (open_ : session.connection.writer.isClosed = false)
    (handler : Handler σ) (now : Nat) (frame : Octets) :
    session.StaysOpen (session.takeMessage handler now frame) := by
  unfold takeMessage
  simp only
  split
  · exact reject_staysOpen _ { session with connection.stage := .decoding }
  · next message _ =>
    have begun := Connection.begin_writer handler now message
      { session.connection with stage := .decoding }
    split
    · next flow connection taken =>
      rw [taken] at begun
      refine .inl ?_
      rw [show connection.writer = session.connection.writer from begun]
      exact open_
    · next task connection taken =>
      rw [taken] at begun
      refine .inl ?_
      rw [show connection.writer = session.connection.writer from begun]
      exact open_

theorem staysOpen_of_write {frame : Octets}
    (wrote : session'.connection.writer = (session.connection.writer.write frame).2)
    (open_ : session.connection.writer.isClosed = false) : session.StaysOpen session' := by
  simp only [StaysOpen, Session.transport, wrote]
  exact (Writer.write_open open_ frame).imp_right .inr

theorem step_staysOpen (open_ : session.connection.writer.isClosed = false)
    (steps : session.step handler environment now signal outside = some (outside', session')) :
    session.StaysOpen session' := by
  have finished (result : Except ServiceError Unit) (changed : Session σ) :
      session.StaysOpen (changed.finish result) := .inr (.inl (List.cons_ne_nil _ _))
  unfold step at steps
  split at steps
  · cases steps
    unfold next
    split
    · exact finished _ _
    · split
      · exact finished _ _
      · split
        · exact reject_staysOpen _ _
        · exact .inl open_
        · next rest _ =>
          have begins : ({ session with buffer := rest } : Session σ).connection.writer.isClosed =
            false := open_
          exact takeMessage_staysOpen begins handler now _
  · split at steps
    · cases steps
    · cases steps
      exact finished _ _
  · next task _ =>
    cases program : task.program with
    | done memory outcome =>
      rw [Task.step_of_done program] at steps
      cases steps
      exact staysOpen_of_write (Connection.finish_writer _ _) open_
    | crash memory reason =>
      simp only [Task.step, program] at steps
      cases steps
      exact staysOpen_of_write (Connection.finish_writer _ _) open_
    | wait rest =>
      simp only [Task.step, program] at steps
      cases steps
    | ask question next =>
      rw [Task.step_of_ask program] at steps
      cases steps
      have exchange : ({ outside, stream := task.stream, connection := session.connection } :
        Exchange ω σ).connection.writer.isClosed = false := open_
      exact (Exchange.answer_open exchange environment now question).imp_right .inr
  · cases steps
    exact follow_staysOpen session fun _ => open_
  · cases steps
  · cases steps

theorem reading?_or_turn? (now : Nat) (signal : Signal) (session : Session σ) :
    session.reading? signal = none ∨ session.turn? now = none := by
  cases phase : session.phase with
  | ready => exact .inr (by simp only [turn?, phase])
  | idle | busy | settled | ended | dropped => exact .inl (by simp only [reading?, phase])

def isAnswering (now : Nat) (signal : Signal) (session : Session σ) : Bool :=
  (session.turn? now).any Turn.isEnd || (session.reading? signal).any Reading.isRefused

theorem advance_staysOpen (open_ : session.connection.writer.isClosed = false)
    (handler : Handler σ) (environment : Environment ω) (now : Nat) (signal : Signal)
    (outside : ω) :
    session.StaysOpen (session.advance handler environment now signal outside) := by
  unfold advance
  cases steps : session.step handler environment now signal outside with
  | none => exact .inl open_
  | some next => exact step_staysOpen open_ steps

theorem awaken_connection (session : Session σ) :
    session.awaken.connection = session.connection := by
  unfold awaken
  split
  · rfl
  · rfl

theorem drop_closing (session : Session σ) : session.drop.closing ≠ [] := by
  unfold drop
  split
  · next ended => simp [closing, ended]
  · next dropped => simp [closing, dropped]
  · exact List.cons_ne_nil _ _

/-- Between two states one frame is written, or its write fails. -/
def Answers (session session' : Session σ) : Prop :=
  (∃ frame, session'.written = session.written ++ [frame]) ∨
    session.transport.writeError.isSome = true ∧ session'.transport.writeError = none

theorem answers_of_write {frame : Octets} (nonempty : frame ≠ [])
    (wrote : session'.connection.writer = (session.connection.writer.write frame).2)
    (open_ : session.connection.writer.isClosed = false) : session.Answers session' := by
  simp only [Answers, Session.written, Connection.written, Session.transport, wrote]
  exact (Writer.write_or_fails nonempty open_).imp_left fun written => ⟨frame, written⟩

theorem Answers.follow (h : session.Answers session') (flow : Flow) :
    session.Answers (session'.follow flow) := by
  have waits : (session'.follow flow).transport.writeError = session'.transport.writeError := by
    cases flow with
    | proceed => rfl
    | close => exact (finish_waitsAlike _ _).write
  rw [Answers, follow_written, waits]
  exact h

theorem refused_of_reading {refusal : Refusal}
    (reads : session.reading? signal = some (.error (.refused refusal))) :
    session.phase = .ready ∧ session.connection.writer.peerGone = false ∧ signal ≠ .shutdown ∧
      ∃ frame rest, Frame.split session.limit session.buffer = .ok (some (frame, rest)) ∧
        Message.decode frame = .error (.refused refusal) := by
  unfold reading? at reads
  split at reads
  · next ready =>
    split at reads
    · cases reads
    · next goes =>
      simp only [Bool.or_eq_true, decide_eq_true_eq, not_or, Bool.not_eq_true] at goes
      refine ⟨ready, goes.1, goes.2, ?_⟩
      split at reads
      · cases reads
      · cases reads
      · next frame rest cut => exact ⟨frame, rest, cut, Option.some.inj reads⟩
  · cases reads

theorem answers_of_end {turn : Turn} (takes : session.turn? now = some turn)
    (ends : turn.isEnd = true) (open_ : session.connection.writer.isClosed = false)
    (steps : session.step handler environment now signal outside = some (outside', session')) :
    session.Answers session' := by
  unfold turn? at takes
  split at takes
  · next task busy =>
    have concluded (memory : σ) (outcome : Except Failure Reply) (phase : Phase σ) :
        session.Answers { session with
          connection := (session.connection.conclude task memory outcome).2
          phase } :=
      answers_of_write (Connection.answerOf_ne_nil task outcome) (Connection.finish_writer _ _)
        open_
    unfold Task.turn? at takes
    split at takes
    · next memory outcome program =>
      simp only [step, busy, Task.step_of_done program] at steps
      cases steps
      exact concluded memory outcome _
    · next memory reason program =>
      simp only [step, busy, Task.step, program] at steps
      cases steps
      exact concluded memory (.error .serverError) _
    · cases takes
      cases ends
    · cases takes
  · cases takes

theorem answers_of_refused {refusal : Refusal}
    (reads : session.reading? signal = some (.error (.refused refusal)))
    (open_ : session.connection.writer.isClosed = false)
    (steps : session.step handler environment now signal outside = some (outside', session')) :
    session.Answers session' := by
  obtain ⟨ready, present, goesOn, frame, rest, cut, decoded⟩ := refused_of_reading reads
  simp only [step, ready, next, present, goesOn, cut, takeMessage, decoded, Bool.false_eq_true,
    if_false] at steps
  cases steps
  refine Answers.follow ?_ _
  exact answers_of_write (Response.message_ne_nil _ _) (Connection.finish_writer _ _) open_

theorem step_answers (answering : session.isAnswering now signal = true)
    (open_ : session.connection.writer.isClosed = false)
    (steps : session.step handler environment now signal outside = some (outside', session')) :
    session.Answers session' := by
  simp only [isAnswering, Bool.or_eq_true, Option.any_eq_true] at answering
  rcases answering with ⟨turn, takes, ends⟩ | ⟨reading, reads, refused⟩
  · exact answers_of_end takes ends open_ steps
  · obtain ⟨refusal, rfl⟩ := Reading.isRefused_iff.1 refused
    exact answers_of_refused reads open_ steps

theorem advance_answers (answering : session.isAnswering now signal = true)
    (open_ : session.connection.writer.isClosed = false) (handler : Handler σ)
    (environment : Environment ω) (outside : ω) :
    session.Answers (session.advance handler environment now signal outside) := by
  unfold advance
  cases steps : session.step handler environment now signal outside with
  | none =>
    rw [isAnswering, reading?_of_stuck steps, turn?_of_stuck steps] at answering
    cases answering
  | some next => exact step_answers answering open_ steps

end Session

namespace Service

variable {ω σ : Type} {number : Nat} {service : Service ω σ} {session : Session σ} {event : Event}

def written (number : Nat) (service : Service ω σ) : List Octets :=
  ((service.session? number).map Session.written).getD []

def isAnswering (number : Nat) (service : Service ω σ) (event : Event) : Bool :=
  (service.turnOf? number event).any Turn.isEnd ||
    (service.readingOf? number event).any Reading.isRefused

def answersOf (number : Nat) (service : Service ω σ) (event : Event) : List Octets :=
  if service.isAnswering number event then
    ((service.apply event).written number).drop (service.written number).length
  else []

def answers (number : Nat) (service : Service ω σ) : List Event → List Octets
  | [] => []
  | event :: rest => service.answersOf number event ++ (service.apply event).answers number rest

/-- How many answers are due in a run. -/
def answersDue (number : Nat) (service : Service ω σ) (events : List Event) : Nat :=
  (service.turns number events).countP Turn.isEnd +
    (service.readings number events).countP Reading.isRefused

def FailsToWrite (number : Nat) (service : Service ω σ) (event : Event) : Prop :=
  ∃ session session', service.session? number = some session ∧
    (service.apply event).session? number = some session' ∧
      session.transport.writeError.isSome = true ∧ session'.transport.writeError = none

/-- A failure of the transport, or the end of the client's stream, comes before the last
answer of a run. The write of an answer that fails comes before it; a flush that fails
does not, since the frame is written by then. -/
inductive LosesAnswer (number : Nat) : Service ω σ → List Event → Prop
  | before {service : Service ω σ} {event : Event} {rest : List Event}
      (lost : service.LosesTransport number event)
      (due : (service.apply event).answersDue number rest ≠ 0) :
      LosesAnswer number service (event :: rest)
  | unwritten {service : Service ω σ} {event : Event} (rest : List Event)
      (fails : service.FailsToWrite number event) (due : service.isAnswering number event = true) :
      LosesAnswer number service (event :: rest)
  | later {service : Service ω σ} (event : Event) {rest : List Event}
      (loses : LosesAnswer number (service.apply event) rest) :
      LosesAnswer number service (event :: rest)

theorem readingOf?_or_turnOf? (number : Nat) (service : Service ω σ) (event : Event) :
    service.readingOf? number event = none ∨ service.turnOf? number event = none := by
  by_cases stepped : event = .stepped number
  · subst stepped
    cases found : service.session? number with
    | none => exact .inl (by rw [readingOf?, found, Option.bind_none, ite_self])
    | some session =>
      rw [readingOf?_stepped found, turnOf?_stepped found]
      exact session.reading?_or_turn? _ _
  · exact .inl (readingOf?_of_ne stepped)

theorem written_eq (found : service.session? number = some session) :
    service.written number = session.written := by
  rw [written, found]
  rfl

theorem answersDue_cons (event : Event) (rest : List Event) :
    service.answersDue number (event :: rest) =
      (if service.isAnswering number event then 1 else 0) +
        (service.apply event).answersDue number rest := by
  have one : (service.turnOf? number event).toList.countP Turn.isEnd +
      (service.readingOf? number event).toList.countP Reading.isRefused =
        if service.isAnswering number event then 1 else 0 := by
    unfold isAnswering
    rcases readingOf?_or_turnOf? number service event with nothing | nothing
    · rw [nothing]
      cases service.turnOf? number event with
      | none => rfl
      | some turn => simp [List.countP_cons]
    · rw [nothing]
      cases service.readingOf? number event with
      | none => rfl
      | some reading => simp [List.countP_cons]
  rw [answersDue, turns, readings, List.countP_append, List.countP_append, ← one, answersDue]
  omega

theorem answers_of_none_due {events : List Event} (none : service.answersDue number events = 0) :
    service.answers number events = [] := by
  induction events generalizing service with
  | nil => rfl
  | cons event rest ih =>
    rw [answersDue_cons, Nat.add_eq_zero_iff] at none
    have idle : service.isAnswering number event = false := by simpa using none.1
    rw [answers, answersOf, idle, ih none.2]
    rfl

theorem length_answersOf (found : service.session? number = some session)
    (open_ : session.connection.writer.isClosed = false)
    (writes : service.isAnswering number event = true → ¬service.FailsToWrite number event) :
    (service.answersOf number event).length = if service.isAnswering number event then 1 else 0 := by
  unfold answersOf
  cases answering : service.isAnswering number event with
  | false => rfl
  | true =>
    have stepped : event = .stepped number := by
      by_contra other
      rw [isAnswering, readingOf?_of_ne other, turnOf?_of_other other] at answering
      cases answering
    subst stepped
    have next := session?_apply found (.stepped number)
    rw [become_of_self rfl] at next
    have due : session.isAnswering service.now service.signal = true := by
      rw [isAnswering, readingOf?_stepped found, turnOf?_stepped found] at answering
      exact answering
    have answers : session.Answers (service.act number session (.stepped number)) :=
      Session.advance_answers due open_ _ _ _
    rcases answers with ⟨frame, wrote⟩ | ⟨waited, struck⟩
    · rw [written_eq found, written_eq next, wrote, List.drop_left]
      rfl
    · exact absurd ⟨session, _, found, next, waited, struck⟩ (writes answering)

theorem become_staysOpen (found : service.session? number = some session)
    (open_ : session.connection.writer.isClosed = false) (event : Event) :
    (service.become number event session).connection.writer.isClosed = false ∨
      (service.become number event session).closing ≠ [] ∨
        service.LosesTransport number event := by
  by_cases address : event.number? = some number
  · rw [become_of_self address]
    cases event with
    | received _ octets =>
      refine .inl ?_
      simp only [act, Session.receive]
      split
      · rw [Session.awaken_connection]
        exact open_
      · exact open_
    | hungUp =>
      cases address
      by_cases reads : session.isReading = true
      · exact .inr (.inr (.endOfStream found reads))
      · exact .inl (by simpa [act, Session.hangUp, reads] using open_)
    | readFailed _ error =>
      cases address
      by_cases reads : session.isReading = true
      · exact .inr (.inr (.readError found reads error))
      · exact .inl (by simpa [act, Session.readFailed, reads] using open_)
    | transportFails => exact .inl open_
    | stepped =>
      cases address
      have next := session?_apply found (.stepped number)
      rw [become_of_self rfl] at next
      have stays : session.StaysOpen (service.act number session (.stepped number)) :=
        Session.advance_staysOpen open_ _ _ _ _ _
      exact stays.imp_right fun lost =>
        lost.imp_right fun struck => .writeError ⟨session, _, found, next, struck⟩
    | woken =>
      refine .inl ?_
      simp only [act, Session.wake]
      split
      · exact open_
      · exact open_
    | dropped => exact .inr (.inl session.drop_closing)
    | connected | signalled | elapsed => exact .inl open_
  · rw [become_of_other address]
    exact .inl open_

theorem become_grows (service : Service ω σ) (event : Event) (session : Session σ) :
    session.written <+: (service.become number event session).written := by
  by_cases stepped : event = .stepped number
  · subst stepped
    rw [become_of_self rfl]
    change session.written <+: (session.advance _ _ _ _ _).written
    unfold Session.advance
    cases steps : session.step (service.handler number) service.environment service.now
        service.signal service.outside with
    | none => exact List.prefix_rfl
    | some next => exact Session.step_grows steps
  · rw [become_written stepped]

theorem answers_sublist (found : service.session? number = some session) (events : List Event) :
    ∃ session' frames, (service.run events).session? number = some session' ∧
      session'.written = session.written ++ frames ∧
        (service.answers number events).Sublist frames := by
  induction events generalizing service session with
  | nil => exact ⟨session, [], found, (List.append_nil _).symm, .slnil⟩
  | cons event rest ih =>
    have next := session?_apply found event
    obtain ⟨first, grows⟩ := become_grows service event session
    obtain ⟨session', frames, found', written, later⟩ := ih next
    refine ⟨session', first ++ frames, found', ?_, ?_⟩
    · rw [written, ← grows, List.append_assoc]
    · refine List.Sublist.append ?_ later
      unfold answersOf
      split
      · rw [written_eq found, written_eq next, ← grows, List.drop_left]
      · exact List.nil_sublist _

/-- As long as nothing is lost before, every answer that is due is written. -/
theorem length_answers {events : List Event} (found : service.session? number = some session)
    (goesOn : session.closing ≠ [] ∨ session.connection.writer.isClosed = false)
    (safe : ¬service.LosesAnswer number events) :
    (service.answers number events).length = service.answersDue number events := by
  induction events generalizing service session with
  | nil => rfl
  | cons event rest ih =>
    have next := session?_apply found event
    have later : ¬(service.apply event).LosesAnswer number rest := fun loses =>
      safe (.later event loses)
    rcases goesOn with finished | open_
    · obtain ⟨readings, turns, -⟩ := run_over found finished (event :: rest)
      have none : service.answersDue number (event :: rest) = 0 := by
        rw [answersDue, readings, turns]
        rfl
      rw [answers_of_none_due none, none]
      rfl
    · have first : (service.answersOf number event).length =
          if service.isAnswering number event then 1 else 0 :=
        length_answersOf found open_ fun due fails => safe (.unwritten rest fails due)
      rw [answers, List.length_append, first, answersDue_cons]
      congr 1
      rcases become_staysOpen found open_ event with still | finished | lost
      · exact ih next (.inr still) later
      · exact ih next (.inl finished) later
      · have none : (service.apply event).answersDue number rest = 0 := by
          by_contra due
          exact safe (.before lost due)
        rw [answers_of_none_due none, none]
        rfl

/-- Whether a run is without trouble for a connection: no one hangs up, no read fails, and
no error waits at the transport. -/
def isSteady (number : Nat) (service : Service ω σ) : List Event → Bool
  | [] => true
  | event :: rest =>
      (match event with
        | .hungUp _ | .readFailed _ _ => false
        | _ => true) &&
      ((service.session? number).all fun session =>
        session.transport.writeError.isNone && session.transport.flushError.isNone) &&
      (service.apply event).isSteady number rest

theorem not_losesAnswer_of_isSteady {events : List Event}
    (steady : service.isSteady number events = true) : ¬service.LosesAnswer number events := by
  induction events generalizing service with
  | nil => nofun
  | cons event rest ih =>
    simp only [isSteady, Bool.and_eq_true, Option.all_eq_true] at steady
    obtain ⟨⟨goesOn, calm⟩, later⟩ := steady
    have none {session : Session σ} (found : service.session? number = some session) :
        session.transport.writeError = none ∧ session.transport.flushError = none := by
      simpa using calm session found
    intro loses
    cases loses with
    | before lost =>
      cases lost with
      | endOfStream => cases goesOn
      | readError => cases goesOn
      | writeError struck =>
        obtain ⟨session, session', found, -, struck⟩ := struck
        obtain ⟨write, flush⟩ := none found
        rcases struck with ⟨waits, -⟩ | ⟨waits, -⟩
        · rw [write] at waits
          cases waits
        · rw [flush] at waits
          cases waits
    | unwritten _ fails =>
      obtain ⟨session, session', found, -, waits, -⟩ := fails
      rw [(none found).1] at waits
      cases waits
    | later _ loses => exact ih later loses

end Service

end LdapService

import LdapService.Proofs.Session.Fates
import LdapService.Proofs.Session.Samples
import LdapService.Proofs.Session.Serving

/-!
What a session books, by what it reads and by the turns that its handler takes. Each
event is one entry of the ledger: a message that is taken up opens an operation, the
end of its handler books it, and nothing else touches the operations. So in every state
the books agree with the history, but for the one operation that may be under way.
-/

namespace LdapService

def answerCode : Option (Except Failure Reply) → ResultCode
  | some (.ok (.code code)) => code
  | some (.ok (.extended _)) => .success
  | some (.error failure) => failure.code
  | none => Failure.serverError.code

theorem Connection.answerOf_code {σ : Type} (task : Task σ) (outcome : Except Failure Reply) :
    (answerOf task outcome).1 = answerCode (some outcome) := by
  cases outcome with
  | error => rfl
  | ok reply =>
    cases reply with
    | code => rfl
    | extended => rfl

namespace Turn

def isDelivery : Turn → Bool
  | sent _ (.ok ()) => true
  | _ => false

def code? : Turn → Option ResultCode
  | ended outcome => some (answerCode outcome)
  | sent _ _ => none

end Turn

abbrev Reading := Except DecodeError Message

namespace Reading

def dispatched? : Reading → Option RequestKind
  | .ok message => if message.request.kind.response?.isSome then some message.request.kind else none
  | .error _ => none

def isRefused : Reading → Bool
  | .error (.refused _) => true
  | _ => false

def isMalformed : Reading → Bool
  | .error (.malformed _) => true
  | _ => false

theorem isRefused_iff {reading : Reading} :
    reading.isRefused = true ↔ ∃ refusal, reading = .error (.refused refusal) := by
  constructor
  · intro refused
    unfold isRefused at refused
    split at refused
    · exact ⟨_, rfl⟩
    · cases refused
  · rintro ⟨refusal, rfl⟩
    rfl

theorem isMalformed_iff {reading : Reading} :
    reading.isMalformed = true ↔ ∃ reason, reading = .error (.malformed reason) := by
  constructor
  · intro malformed
    unfold isMalformed at malformed
    split at malformed
    · exact ⟨_, rfl⟩
    · cases malformed
  · rintro ⟨reason, rfl⟩
    rfl

end Reading

def Note.code? : Note → Option ResultCode
  | operation _ code => some code
  | _ => none

/-- One entry of a ledger: what is read, the turn of the handler, the operation under way
before it, what is booked and the operation under way after it. -/
inductive Books : Option Reading → Option Turn → Option RequestKind → List Note →
    Option RequestKind → Prop
  | nothing (kind : Option RequestKind) : Books none none kind [] kind
  | opens {message : Message} {response : ResponseKind}
      (answered : message.request.kind.response? = some response) :
      Books (some (.ok message)) none none [] (some message.request.kind)
  | passes {message : Message} (unanswered : message.request.kind.response? = none) :
      Books (some (.ok message)) none none [] none
  | refuses (refusal : Refusal) : Books (some (.error (.refused refusal))) none none [.refused] none
  | rejects (reason : String) :
      Books (some (.error (.malformed reason))) none none [.malformed] none
  | delivers (kind : RequestKind) (entry : Entry) :
      Books none (some (.sent entry (.ok ()))) (some kind) [.entry] (some kind)
  | withholds (kind : RequestKind) (entry : Entry) (failure : Failure) :
      Books none (some (.sent entry (.error failure))) (some kind) [] (some kind)
  | ends (kind : RequestKind) (outcome : Option (Except Failure Reply)) :
      Books none (some (.ended outcome)) (some kind) [.operation kind (answerCode outcome)] none

/-- The books agree with what has been read and with the turns of the handler, from one
state of the operation under way to another. -/
structure Agrees (before : Option RequestKind) (readings : List Reading) (turns : List Turn)
    (notes : List Note) (after : Option RequestKind) : Prop where
  kinds : before.toList ++ readings.filterMap Reading.dispatched? =
    notes.filterMap Note.kind? ++ after.toList
  codes : notes.filterMap Note.code? = turns.filterMap Turn.code?
  entries : notes.count .entry = turns.countP Turn.isDelivery
  refused : notes.count .refused = readings.countP Reading.isRefused
  malformed : notes.count .malformed = readings.countP Reading.isMalformed
  inside : notes.count .opened = 0 ∧ notes.count .closed = 0

namespace Agrees

variable {before between after : Option RequestKind} {readings readings' : List Reading}
  {turns turns' : List Turn} {notes notes' : List Note}

theorem nothing (kind : Option RequestKind) : Agrees kind [] [] [] kind :=
  ⟨List.append_nil _, rfl, rfl, rfl, rfl, rfl, rfl⟩

theorem append (h : Agrees before readings turns notes between)
    (h' : Agrees between readings' turns' notes' after) :
    Agrees before (readings ++ readings') (turns ++ turns') (notes ++ notes') after where
  kinds := by
    rw [List.filterMap_append, ← List.append_assoc, h.kinds, List.append_assoc, h'.kinds,
      List.filterMap_append, List.append_assoc]
  codes := by rw [List.filterMap_append, List.filterMap_append, h.codes, h'.codes]
  entries := by rw [List.count_append, List.countP_append, h.entries, h'.entries]
  refused := by rw [List.count_append, List.countP_append, h.refused, h'.refused]
  malformed := by rw [List.count_append, List.countP_append, h.malformed, h'.malformed]
  inside := by
    rw [List.count_append, List.count_append, h.inside.1, h'.inside.1, h.inside.2, h'.inside.2]
    exact ⟨rfl, rfl⟩

end Agrees

theorem Books.agrees {reading : Option Reading} {turn : Option Turn}
    {before after : Option RequestKind} {notes : List Note}
    (books : Books reading turn before notes after) :
    Agrees before reading.toList turn.toList notes after := by
  cases books with
  | nothing => exact .nothing _
  | opens answered =>
    refine ⟨?_, rfl, rfl, rfl, rfl, rfl, rfl⟩
    simp [Reading.dispatched?, answered]
  | passes unanswered =>
    refine ⟨?_, rfl, rfl, rfl, rfl, rfl, rfl⟩
    simp [Reading.dispatched?, unanswered]
  | refuses | rejects | delivers | withholds | ends =>
    exact ⟨rfl, rfl, rfl, rfl, rfl, rfl, rfl⟩

namespace Connection

variable {σ : Type}

theorem reject_observed (error : DecodeError) (connection : Connection σ) :
    (connection.reject error).2.observed = connection.observed ++
      match error with
      | .malformed _ => [.decodeError true]
      | .refused _ => [.decodeError false] := by
  cases error with
  | malformed reason => rfl
  | refused refusal => exact finish_observed _ _

theorem begin_observed (handler : Handler σ) (now : Nat) (message : Message)
    (connection : Connection σ) :
    (connection.begin handler now message).2.observed = connection.observed := by
  unfold begin
  simp only
  split
  · split
    · rfl
    · rfl
  · rfl

theorem begin_kind {handler : Handler σ} {now : Nat} {message : Message}
    {connection connection' : Connection σ} {task : Task σ}
    (begins : connection.begin handler now message = (.inr task, connection')) :
    task.kind = message.request.kind ∧ message.request.kind.response? = some task.response := by
  unfold begin at begins
  simp only at begins
  split at begins
  · split at begins
    · cases begins
    · cases begins
  · next response answered =>
    cases begins
    exact ⟨rfl, answered⟩

theorem begin_unanswered {handler : Handler σ} {now : Nat} {message : Message}
    {connection connection' : Connection σ} {flow : Flow}
    (begins : connection.begin handler now message = (.inl flow, connection')) :
    message.request.kind.response? = none := by
  unfold begin at begins
  simp only at begins
  split at begins
  · assumption
  · cases begins

end Connection

theorem Exchange.send_observed {ω σ : Type} (now : Nat) (entry : Entry) (exchange : Exchange ω σ) :
    (exchange.send now entry).2.connection.observed = exchange.connection.observed ++
      match (exchange.stream.send Writer.sink now entry exchange.connection.writer).1 with
      | .ok () => [.entrySent]
      | .error _ => [] := by
  unfold send
  simp only
  cases (exchange.stream.send Writer.sink now entry exchange.connection.writer).1 with
  | ok => rfl
  | error => exact (List.append_nil _).symm

namespace Session

variable {ω σ : Type}

def reading? (signal : Signal) (session : Session σ) : Option Reading :=
  match session.phase with
  | .ready =>
      if session.connection.writer.peerGone || signal = .shutdown then none
      else
        match Frame.split session.limit session.buffer with
        | .error cause => some (.error (.ofMalformation cause))
        | .ok none => none
        | .ok (some (frame, _)) => some (Message.decode frame)
  | _ => none

def underWay? (session : Session σ) : Option RequestKind :=
  match session.phase with
  | .busy task => some task.kind
  | _ => none

def closing (session : Session σ) : List Note :=
  match session.phase with
  | .ended _ | .dropped => [.closed]
  | .ready | .idle | .busy _ | .settled _ => []

/-- Between two states these notes are booked, and the end if that is reached. -/
def Posts (notes : List Note) (session session' : Session σ) : Prop :=
  session'.connection.observed =
    session.connection.observed ++ (notes ++ session'.closing).map Note.observation

variable {session session' : Session σ} {handler : Handler σ} {environment : Environment ω}
  {now : Nat} {signal : Signal} {outside outside' : ω} {notes : List Note}

theorem posts_follow (flow : Flow) (notes : List Note) {connection : Connection σ}
    (observed : connection.observed = session.connection.observed ++ notes.map Note.observation) :
    session.Posts notes ({ session with connection }.follow flow) ∧
      ({ session with connection }.follow flow).underWay? = none := by
  cases flow with
  | proceed =>
    refine ⟨?_, rfl⟩
    rw [Posts]
    change connection.observed = _ ++ (notes ++ []).map Note.observation
    rw [List.append_nil, observed]
  | close =>
    refine ⟨?_, rfl⟩
    rw [Posts]
    change connection.observed ++ [.sessionClosed] =
      _ ++ (notes ++ [Note.closed]).map Note.observation
    rw [List.map_append, ← List.append_assoc, observed]
    rfl

theorem posts_finish (result : Except ServiceError Unit) {changed : Session σ}
    (same : changed.connection.observed = session.connection.observed) :
    session.Posts [] (changed.finish result) := by
  rw [Posts, ← same]
  rfl

def Enters (reading : Option Reading) (turn : Option Turn) (session session' : Session σ) : Prop :=
  ∃ notes, Books reading turn session.underWay? notes session'.underWay? ∧
    session.Posts notes session'

theorem reject_enters (idle : session.underWay? = none) (error : DecodeError) :
    session.Enters (some (.error error)) none (session.reject error) := by
  have observed := Connection.reject_observed error session.connection
  rw [Enters, idle]
  cases error with
  | malformed reason =>
    obtain ⟨posts, after⟩ := posts_follow .close [.malformed] observed
    exact ⟨_, after ▸ .rejects reason, posts⟩
  | refused refusal =>
    obtain ⟨posts, after⟩ :=
      posts_follow (session.connection.reject (.refused refusal)).1 [.refused] observed
    exact ⟨_, after ▸ .refuses refusal, posts⟩

theorem takeMessage_enters (idle : session.underWay? = none) (handler : Handler σ) (now : Nat)
    (frame : Octets) :
    session.Enters (some (Message.decode frame)) none (session.takeMessage handler now frame) := by
  unfold takeMessage
  simp only
  split
  · next error decoded =>
    rw [decoded]
    have begins : ({ session with connection.stage := .decoding } : Session σ).underWay? = none :=
      idle
    exact reject_enters begins error
  · next message decoded =>
    have observed := Connection.begin_observed handler now message
      { session.connection with stage := .decoding }
    rw [decoded, Enters, idle]
    split
    · next flow connection begins =>
      rw [begins] at observed
      exact ⟨[], .passes (Connection.begin_unanswered begins),
        observed.trans (List.append_nil _).symm⟩
    · next task connection begins =>
      obtain ⟨kind, answered⟩ := Connection.begin_kind begins
      rw [begins] at observed
      refine ⟨[], ?_, ?_⟩
      · rw [show ({ session with connection, phase := .busy task } : Session σ).underWay? =
          some message.request.kind from congrArg some kind]
        exact .opens answered
      · exact observed.trans (List.append_nil _).symm

theorem next_enters (ready : session.phase = .ready) (handler : Handler σ) (now : Nat)
    (signal : Signal) :
    session.Enters (session.reading? signal) none (session.next handler now signal) := by
  have idle : session.underWay? = none := by rw [underWay?, ready]
  have nothing {session' : Session σ} (posts : session.Posts [] session')
      (after : session'.underWay? = none) : session.Enters none none session' := by
    rw [Enters, idle, after]
    exact ⟨[], .nothing none, posts⟩
  unfold next
  cases gone : session.connection.writer.peerGone with
  | true =>
    have reading : session.reading? signal = none := by simp [reading?, ready, gone]
    rw [reading, if_pos rfl]
    exact nothing (posts_finish _ rfl) rfl
  | false =>
    rw [if_neg Bool.false_ne_true]
    by_cases shutdown : signal = .shutdown
    · have reading : session.reading? signal = none := by simp [reading?, ready, shutdown]
      rw [reading, if_pos shutdown]
      exact nothing (posts_finish _ rfl) rfl
    · rw [if_neg shutdown]
      have reading : session.reading? signal =
          match Frame.split session.limit session.buffer with
          | .error cause => some (.error (.ofMalformation cause))
          | .ok none => none
          | .ok (some (frame, _)) => some (Message.decode frame) := by
        simp [reading?, ready, gone, shutdown]
      rw [reading]
      cases Frame.split session.limit session.buffer with
      | error cause => exact reject_enters idle _
      | ok cut =>
        cases cut with
        | none => exact nothing (List.append_nil _).symm rfl
        | some cut =>
          have begins : ({ session with buffer := cut.2 } : Session σ).underWay? = none := idle
          exact takeMessage_enters begins handler now cut.1

theorem conclude_enters {task : Task σ} (busy : session.phase = .busy task) (memory : σ)
    {outcome : Except Failure Reply} {told : Option (Except Failure Reply)}
    (same : answerCode (some outcome) = answerCode told) :
    session.Enters none (some (.ended told)) { session with
      connection := (session.connection.conclude task memory outcome).2
      phase := .settled (session.connection.conclude task memory outcome).1 } := by
  have before : session.underWay? = some task.kind := by rw [underWay?, busy]
  have observed := Connection.conclude_observed task memory outcome session.connection
  rw [Connection.answerOf_code, same] at observed
  rw [Enters, before]
  exact ⟨[.operation task.kind (answerCode told)], .ends task.kind told, observed⟩

theorem busy_enters {task : Task σ} (busy : session.phase = .busy task)
    (steps : session.step handler environment now signal outside = some (outside', session')) :
    session.Enters none (session.turn? now) session' := by
  have turn : session.turn? now = task.turn? now session.connection.writer := by
    simp only [turn?, busy]
  have before : session.underWay? = some task.kind := by rw [underWay?, busy]
  rw [turn]
  simp only [step, busy] at steps
  cases program : task.program with
  | done memory outcome =>
    rw [Task.step_of_done program] at steps
    cases steps
    rw [Task.turn?, program]
    exact conclude_enters busy memory rfl
  | crash memory reason =>
    simp only [Task.step, program] at steps
    cases steps
    rw [Task.turn?, program]
    exact conclude_enters busy memory rfl
  | wait rest =>
    simp only [Task.step, program] at steps
    cases steps
  | ask question next =>
    rw [Task.step_of_ask program] at steps
    cases steps
    rw [Task.turn?, program, Enters, before]
    cases question with
    | backend question => exact ⟨[], .nothing _, (List.append_nil _).symm⟩
    | isClosed => exact ⟨[], .nothing _, (List.append_nil _).symm⟩
    | send entry =>
      have observed := Exchange.send_observed now entry
        { outside, stream := task.stream, connection := session.connection }
      simp only
      generalize sent : (task.stream.send Writer.sink now entry session.connection.writer).1 = outcome
        at observed ⊢
      cases outcome with
      | ok => exact ⟨[.entry], .delivers _ _, observed⟩
      | error failure => exact ⟨[], .withholds _ _ failure, observed⟩

theorem step_enters
    (steps : session.step handler environment now signal outside = some (outside', session')) :
    session.Enters (session.reading? signal) (session.turn? now) session' := by
  cases phase : session.phase with
  | ready =>
    simp only [step, phase] at steps
    cases steps
    have turn : session.turn? now = none := by simp only [turn?, phase]
    rw [turn]
    exact next_enters phase handler now signal
  | idle =>
    simp only [step, phase] at steps
    split at steps
    · cases steps
    · cases steps
      have turn : session.turn? now = none := by simp only [turn?, phase]
      have reading : session.reading? signal = none := by simp only [reading?, phase]
      have before : session.underWay? = none := by rw [underWay?, phase]
      rw [turn, reading, Enters, before]
      exact ⟨[], .nothing none, posts_finish _ rfl⟩
  | busy task =>
    have reading : session.reading? signal = none := by simp only [reading?, phase]
    rw [reading]
    exact busy_enters phase steps
  | settled flow =>
    simp only [step, phase] at steps
    cases steps
    have turn : session.turn? now = none := by simp only [turn?, phase]
    have reading : session.reading? signal = none := by simp only [reading?, phase]
    have before : session.underWay? = none := by rw [underWay?, phase]
    have observed : session.connection.observed =
        session.connection.observed ++ ([] : List Note).map Note.observation :=
      (List.append_nil _).symm
    obtain ⟨posts, after⟩ := posts_follow flow [] observed
    rw [turn, reading, Enters, before]
    exact ⟨[], after ▸ .nothing none, posts⟩
  | ended | dropped =>
    simp only [step, phase] at steps
    cases steps

theorem Posts.append {session'' : Session σ} {more : List Note} (posts : session.Posts notes session')
    (goesOn : session'.closing = []) (later : session'.Posts more session'') :
    session.Posts (notes ++ more) session'' := by
  rw [Posts, goesOn, List.append_nil] at posts
  rw [Posts, later, posts, List.append_assoc, ← List.map_append, List.append_assoc notes]

theorem over_cases (finished : session.closing ≠ []) :
    (∃ result, session.phase = .ended result) ∨ session.phase = .dropped := by
  unfold closing at finished
  split at finished
  · next result ended => exact .inl ⟨result, ended⟩
  · next dropped => exact .inr dropped
  · exact absurd rfl finished
  · exact absurd rfl finished
  · exact absurd rfl finished
  · exact absurd rfl finished

theorem nothing_of_over (finished : session.closing ≠ []) :
    (∀ signal, session.reading? signal = none) ∧ ∀ now, session.turn? now = none := by
  rcases over_cases finished with ⟨result, phase⟩ | phase
  · simp [reading?, turn?, phase]
  · simp [reading?, turn?, phase]

theorem still_of_over (finished : session.closing ≠ []) :
    session.isReading = false ∧ session.wake = session ∧ session.drop = session := by
  rcases over_cases finished with ⟨result, phase⟩ | phase
  · simp [isReading, wake, drop, phase]
  · simp [isReading, wake, drop, phase]

theorem advance_of_over (finished : session.closing ≠ []) (handler : Handler σ)
    (environment : Environment ω) (now : Nat) (signal : Signal) (outside : ω) :
    session.advance handler environment now signal outside = session := by
  rcases over_cases finished with ⟨result, phase⟩ | phase
  · simp [advance, step, phase]
  · simp [advance, step, phase]

theorem drop_phase (goesOn : session.closing = []) : session.drop.phase = .dropped := by
  unfold drop
  split
  · next ended => simp [closing, ended] at goesOn
  · next dropped => simp [closing, dropped] at goesOn
  · rfl

theorem reading?_of_stuck
    (stuck : session.step handler environment now signal outside = none) :
    session.reading? signal = none := by
  unfold reading?
  split
  · next ready =>
    simp [step, ready] at stuck
  · rfl

structure KeepsBooks (session session' : Session σ) : Prop where
  observed : session'.connection.observed = session.connection.observed
  underWay : session'.underWay? = session.underWay?
  closing : session'.closing = session.closing

theorem KeepsBooks.of_phase (observed : session'.connection.observed = session.connection.observed)
    (phase : session'.phase = session.phase) : session.KeepsBooks session' := by
  refine ⟨observed, ?_, ?_⟩
  · rw [underWay?, underWay?, phase]
  · rw [Session.closing, Session.closing, phase]

theorem read_keepsBooks {changed : Session σ} (phase : changed.phase = session.phase)
    (observed : changed.connection.observed = session.connection.observed) (reads : Bool) :
    session.KeepsBooks (if reads then changed.awaken else session) := by
  split
  · unfold awaken
    split
    · next idle =>
      rw [phase] at idle
      refine ⟨observed, ?_, ?_⟩
      · simp only [underWay?, idle]
      · simp only [Session.closing, idle]
    · exact .of_phase observed phase
  · exact .of_phase rfl rfl

theorem wake_keepsBooks (session : Session σ) : session.KeepsBooks session.wake := by
  unfold wake
  split
  · next task busy =>
    refine ⟨rfl, ?_, ?_⟩
    · simp only [underWay?, busy, Task.wake]
      split
      · rfl
      · rfl
    · simp only [Session.closing, busy]
  · exact .of_phase rfl rfl

theorem KeepsBooks.enters (keeps : session.KeepsBooks session') (goesOn : session.closing = []) :
    session.Enters none none session' := by
  refine ⟨[], ?_, ?_⟩
  · rw [keeps.underWay]
    exact .nothing _
  · rw [Posts, keeps.observed, keeps.closing, goesOn]
    exact (List.append_nil _).symm

theorem advance_enters (goesOn : session.closing = []) (handler : Handler σ)
    (environment : Environment ω) (now : Nat) (signal : Signal) (outside : ω) :
    session.Enters (session.reading? signal) (session.turn? now)
      (session.advance handler environment now signal outside) := by
  unfold advance
  cases steps : session.step handler environment now signal outside with
  | none =>
    rw [reading?_of_stuck steps, turn?_of_stuck steps]
    exact KeepsBooks.enters (.of_phase rfl rfl) goesOn
  | some next => exact step_enters steps

end Session

namespace Service

variable {ω σ : Type} {number : Nat} {service : Service ω σ} {session : Session σ} {event : Event}

def readingOf? (number : Nat) (service : Service ω σ) : Event → Option Reading
  | .stepped other =>
      if other = number then (service.session? number).bind (Session.reading? service.signal)
      else none
  | _ => none

def readings (number : Nat) (service : Service ω σ) : List Event → List Reading
  | [] => []
  | event :: rest =>
      (service.readingOf? number event).toList ++ (service.apply event).readings number rest

theorem readingOf?_of_ne (other : event ≠ .stepped number) :
    service.readingOf? number event = none := by
  unfold readingOf?
  split
  · next different =>
    have ne : different ≠ number := fun same => other (congrArg _ same)
    rw [if_neg ne]
  · rfl

theorem turnOf?_of_other (other : event ≠ .stepped number) :
    service.turnOf? number event = none := by
  unfold turnOf?
  split
  · next different =>
    have ne : different ≠ number := fun same => other (congrArg _ same)
    rw [if_neg ne]
  · rfl

theorem readingOf?_stepped (found : service.session? number = some session) :
    service.readingOf? number (.stepped number) = session.reading? service.signal := by
  rw [readingOf?, if_pos rfl, found, Option.bind_some]

theorem turnOf?_stepped (found : service.session? number = some session) :
    service.turnOf? number (.stepped number) = session.turn? service.now := by
  rw [turnOf?, if_pos rfl, found, Option.bind_some]

theorem become_keepsBooks (other : event ≠ .stepped number) (goesOn : event ≠ .dropped number)
    (service : Service ω σ) (session : Session σ) :
    session.KeepsBooks (service.become number event session) := by
  by_cases address : event.number? = some number
  · rw [become_of_self address]
    cases event with
    | received | hungUp | readFailed =>
      apply Session.read_keepsBooks
      · rfl
      · rfl
    | transportFails => exact .of_phase rfl rfl
    | stepped =>
      cases address
      exact absurd rfl other
    | woken => exact session.wake_keepsBooks
    | dropped =>
      cases address
      exact absurd rfl goesOn
    | connected | signalled | elapsed => exact .of_phase rfl rfl
  · rw [become_of_other address]
    exact .of_phase rfl rfl

theorem become_enters (found : service.session? number = some session)
    (goesOn : session.closing = []) (kept : event ≠ .dropped number) :
    session.Enters (service.readingOf? number event) (service.turnOf? number event)
      (service.become number event session) := by
  by_cases stepped : event = .stepped number
  · subst stepped
    rw [readingOf?_stepped found, turnOf?_stepped found, become_of_self rfl]
    exact Session.advance_enters goesOn _ _ _ _ _
  · rw [readingOf?_of_ne stepped, turnOf?_of_other stepped]
    exact (become_keepsBooks stepped kept service session).enters goesOn

/-- A session that is over stays as it is, but for errors that wait at its transport. -/
theorem become_over (finished : session.closing ≠ []) (service : Service ω σ) (event : Event) :
    (service.become number event session).phase = session.phase ∧
      (service.become number event session).connection.observed = session.connection.observed := by
  by_cases address : event.number? = some number
  · rw [become_of_self address]
    obtain ⟨still, asleep, settled⟩ := Session.still_of_over finished
    cases event with
    | received => simp [act, Session.receive, still]
    | hungUp => simp [act, Session.hangUp, still]
    | readFailed => simp [act, Session.readFailed, still]
    | transportFails => exact ⟨rfl, rfl⟩
    | stepped => simp [act, Session.advance_of_over finished]
    | woken => simp [act, asleep]
    | dropped => simp [act, settled]
    | connected | signalled | elapsed => exact ⟨rfl, rfl⟩
  · rw [become_of_other address]
    exact ⟨rfl, rfl⟩

theorem run_over (found : service.session? number = some session) (finished : session.closing ≠ [])
    (events : List Event) :
    service.readings number events = [] ∧ service.turns number events = [] ∧
      ∃ session', (service.run events).session? number = some session' ∧
        session'.phase = session.phase ∧
        session'.connection.observed = session.connection.observed := by
  induction events generalizing service session with
  | nil => exact ⟨rfl, rfl, session, found, rfl, rfl⟩
  | cons event rest ih =>
    obtain ⟨phase, observed⟩ := become_over finished service event
    have nothing : service.readingOf? number event = none ∧ service.turnOf? number event = none := by
      obtain ⟨reading, turn⟩ := Session.nothing_of_over finished
      by_cases stepped : event = .stepped number
      · subst stepped
        rw [readingOf?_stepped found, turnOf?_stepped found]
        exact ⟨reading _, turn _⟩
      · exact ⟨readingOf?_of_ne stepped, turnOf?_of_other stepped⟩
    have same : (service.become number event session).closing = session.closing :=
      (Session.KeepsBooks.of_phase observed phase).closing
    obtain ⟨readings, turns, session', found', phase', observed'⟩ :=
      ih (session?_apply found event) (same ▸ finished)
    refine ⟨?_, ?_, session', found', phase'.trans phase, observed'.trans observed⟩
    · rw [Service.readings, nothing.1, readings]
      rfl
    · rw [Service.turns, nothing.2, turns]
      rfl

/-- Unless a session is dropped, its books agree with its history in every state, but for
the operation that is under way. -/
theorem run_agrees (found : service.session? number = some session)
    (goesOn : session.closing = []) (events : List Event) :
    ∃ session', (service.run events).session? number = some session' ∧
      (session'.phase = .dropped ∨ ∃ notes,
        Agrees session.underWay? (service.readings number events) (service.turns number events)
          notes session'.underWay? ∧ session.Posts notes session') := by
  induction events generalizing service session with
  | nil =>
    refine ⟨session, found, .inr ⟨[], .nothing _, ?_⟩⟩
    rw [Session.Posts, goesOn]
    exact (List.append_nil _).symm
  | cons event rest ih =>
    have next := session?_apply found event
    by_cases drops : event = .dropped number
    · have dropped : (service.become number event session).phase = .dropped := by
        rw [drops, become_of_self rfl]
        exact Session.drop_phase goesOn
      obtain ⟨-, -, session', found', phase, -⟩ :=
        run_over next (by simp [Session.closing, dropped]) rest
      exact ⟨session', found', .inl (phase.trans dropped)⟩
    · obtain ⟨notes, books, posts⟩ := become_enters found goesOn drops
      rw [Service.readings, Service.turns]
      by_cases open_ : (service.become number event session).closing = []
      · obtain ⟨session', found', later⟩ := ih next open_
        refine ⟨session', found', later.imp_right ?_⟩
        rintro ⟨more, agrees, posts'⟩
        exact ⟨notes ++ more, books.agrees.append agrees, posts.append open_ posts'⟩
      · obtain ⟨readings, turns, session', found', phase, observed⟩ := run_over next open_ rest
        have keeps : Session.KeepsBooks _ session' := .of_phase observed phase
        refine ⟨session', found', .inr ⟨notes, ?_, ?_⟩⟩
        · rw [readings, turns, List.append_nil, List.append_nil, keeps.underWay]
          exact books.agrees
        · rw [Session.Posts, observed, keeps.closing]
          exact posts

end Service

end LdapService

import LdapService.Directory.Shared
import LdapService.Proofs.Session.Blocks
import LdapService.Proofs.Session.Endings
import LdapService.Proofs.Session.Notices

/-!
A shutdown lets the operation under way come to its end, and nothing else begin. Until
the signal a session is in service, or its client has parted from it: by an unbind, or
by octets that are no message. From the signal on it takes up nothing more, completes
what it has begun, gives notice and ends.
-/

namespace LdapService

namespace Session

variable {ω σ : Type} {session session' : Session σ} {handler : Handler σ}
  {environment : Environment ω} {now : Nat} {signal : Signal} {outside outside' : ω}
  {uptakes : List (Except DecodeError Message)} {turns : List Turn}

/-- Everything that was taken up has been served, or the last of it is under way. -/
inductive InService (uptakes : List (Except DecodeError Message)) (turns : List Turn)
    (session : Session σ) : Prop
  | between (served : Served uptakes turns session.written)
      (sound : session.connection.writer.IsSound) (noError : session.readError = none)
      (phase : session.IsFree ∨ session.phase = .idle)
  | during {done : List (Except DecodeError Message)} {message : Message} {task : Task σ}
      {earlier current : List Turn} {sent block : List Octets}
      (taken : uptakes = done ++ [.ok message]) (served : Served done earlier sent)
      (serving : task.Serving message current block) (turns : turns = earlier ++ current)
      (written : session.written = sent ++ block)
      (sound : session.connection.writer.IsSound) (noError : session.readError = none)
      (phase : session.phase = .busy task)

structure IsOver (session : Session σ) : Prop where
  ended : session.phase = .ended (.ok ())
  shut : session.transport.isShutDown = true

/-- Its end is settled, and no trouble has come up. -/
structure IsLeaving (session : Session σ) : Prop where
  sound : session.connection.writer.IsSound
  noError : session.readError = none
  settled : session.phase = .settled .close

/-- The client has ended it: the last that was taken up is an unbind, or is malformed, or
there is something in the buffer that does not begin a message. -/
inductive HasParted (uptakes : List (Except DecodeError Message)) (turns : List Turn)
    (session : Session σ) : Prop
  | unbound {done : List (Except DecodeError Message)} {unbind : Except DecodeError Message}
      (taken : uptakes = done ++ [unbind]) (last : IsUnbind unbind)
      (served : Served uptakes turns session.written) (ends : session.IsLeaving ∨ session.IsOver)
  | malformed {done : List (Except DecodeError Message)} {reason : String} {frames : List Octets}
      (taken : uptakes = done ++ [.error (.malformed reason)] ∨ uptakes = done ∧
        ∃ cause, Frame.split session.limit session.buffer = .error cause ∧ reason = cause.message)
      (served : Served done turns frames)
      (written : session.written = frames ++ [Response.notice .protocolError reason])
      (isOver : session.IsOver)

/-- The server has ended it: all that was taken up has been served, and then notice given. -/
def IsDismissed (uptakes : List (Except DecodeError Message)) (turns : List Turn)
    (session : Session σ) : Prop :=
  ∃ frames, Served uptakes turns frames ∧
    session.written = frames ++ [Response.notice .unavailable "Server shutting down"] ∧
    session.IsOver

theorem IsDismissed.isOver (h : session.IsDismissed uptakes turns) : session.IsOver := by
  obtain ⟨frames, served, written, isOver⟩ := h
  exact isOver

theorem HasParted.ends (h : session.HasParted uptakes turns) :
    session.IsLeaving ∨ session.IsOver := by
  cases h with
  | unbound taken last served ends => exact ends
  | malformed taken served written isOver => exact .inr isOver

theorem finish_isOver (sound : session.connection.writer.IsSound) :
    (session.finish (.ok ())).IsOver := by
  have isOpen := sound.isOpen
  simp only [Writer.isClosed, Bool.or_eq_false_iff] at isOpen
  refine ⟨rfl, ?_⟩
  change session.connection.writer.shutDown.transport.isShutDown = true
  rw [Writer.shutDown, if_neg (by simp [isOpen.1])]
  rfl

theorem finishRead_isOver (sound : session.connection.writer.IsSound)
    (noError : session.readError = none) : session.finishRead.IsOver := by
  rw [finishRead, noError]
  exact finish_isOver sound

theorem notify_writer (connection : Connection σ) (sound : connection.writer.IsSound)
    (code : ResultCode) (diagnostic : String) :
    (connection.notify code diagnostic).writer =
      connection.writer.sent (Response.notice code diagnostic) := by
  have nonempty : Response.notice code diagnostic ≠ [] := Response.message_ne_nil _ _
  rw [Connection.notify, sound.write_eq nonempty]

theorem reject_malformed (session : Session σ) (sound : session.connection.writer.IsSound)
    (noError : session.readError = none) (reason : String) :
    session.Notifies .protocolError reason (session.reject (.malformed reason)) ∧
      (session.reject (.malformed reason)).IsOver := by
  have writer := notify_writer (session.connection.observe (.decodeError true)) sound
    .protocolError reason
  constructor
  · rw [Notifies, reject, follow_written]
    exact congrArg (·.transport.written) writer
  · refine finishRead_isOver ?_ noError
    change ((session.connection.observe (.decodeError true)).notify .protocolError
      reason).writer.IsSound
    rw [writer]
    exact sound.sent _

theorem finishShutdown_isOver (sound : session.connection.writer.IsSound) :
    session.Notifies .unavailable "Server shutting down" session.finishShutdown ∧
      session.finishShutdown.IsOver := by
  have writer := notify_writer session.connection sound .unavailable "Server shutting down"
  constructor
  · rw [Notifies, finishShutdown, finish_written]
    exact congrArg (·.transport.written) writer
  · refine finish_isOver ?_
    rw [writer]
    exact sound.sent _

theorem InService.takeMessage (session : Session σ) (served : Served uptakes turns session.written)
    (sound : session.connection.writer.IsSound) (noError : session.readError = none)
    (handler : Handler σ) (now : Nat) (frame : Octets) :
    (session.takeMessage handler now frame).InService (uptakes ++ [Message.decode frame]) turns ∨
      (session.takeMessage handler now frame).HasParted (uptakes ++ [Message.decode frame])
        turns := by
  have taken := takeMessage_takesUp sound handler now frame
  generalize session.takeMessage handler now frame = session' at taken ⊢
  cases taken with
  | served free continues serves sound' written =>
    have served' := served.snoc serves
    rw [List.append_nil] at served'
    refine .inl (.between ?_ sound' noError (.inl free))
    rw [Session.written, Connection.written, written]
    exact served'
  | @unbound connection last serves same =>
    have served' := served.snoc serves
    rw [List.append_nil, List.append_nil] at served'
    refine .inr (.unbound rfl last ?_ (.inl ⟨same ▸ sound, noError, rfl⟩))
    rw [Session.written, Connection.written, same]
    exact served'
  | @malformed connection reason decoded same =>
    have sound' : connection.writer.IsSound := same ▸ sound
    obtain ⟨given, isOver⟩ := reject_malformed { session with connection } sound' noError reason
    refine .inr (.malformed (.inl (by rw [decoded])) served ?_ isOver)
    rw [given, Session.written, Session.written, Connection.written, Connection.written, same]
  | begun decoded serving same =>
    refine .inl (.during (by rw [decoded]) served serving (List.append_nil _).symm ?_ (same ▸ sound)
      noError rfl)
    rw [Session.written, Connection.written, same, List.append_nil]
    rfl

theorem not_busy_of_between (phase : session.IsFree ∨ session.phase = .idle) :
    ¬session.IsBusy := by
  rintro ⟨task, busy⟩
  simp only [IsFree, busy, reduceCtorEq, or_false] at phase

theorem InService.goesOn {task : Task σ} (h : session.InService uptakes turns)
    (busy : session.phase = .busy task)
    (steps : session.step handler environment now signal outside = some (outside', session')) :
    session.uptake? signal = none ∧
      session'.InService uptakes (turns ++ (session.turn? now).toList) := by
  have nothing : session.uptake? signal = none := by
    rw [uptake?, frame?_of_ne_ready (by simp [busy]), Option.map_none]
  refine ⟨nothing, ?_⟩
  cases h with
  | between served sound noError phase => exact absurd ⟨task, busy⟩ (not_busy_of_between phase)
  | during taken served serving turns written sound noError phase =>
    have goesOn := step_goesOn serving sound phase steps
    rw [turns, List.append_assoc, taken]
    cases goesOn with
    | further serving' sound' written' =>
      refine .during rfl served serving' rfl ?_ sound' noError rfl
      rw [← List.append_assoc, ← written]
      exact written'
    | complete serves sound' written' =>
      refine .between ?_ sound' noError (.inl (.inr rfl))
      rw [Session.written, Connection.written, written', ← Connection.written, ← Session.written,
        written, List.append_assoc]
      exact served.snoc serves

theorem turn?_of_quiet (quiet : ¬session.IsBusy) (now : Nat) : session.turn? now = none := by
  unfold turn?
  split
  · next task busy => exact absurd ⟨task, busy⟩ quiet
  · rfl

theorem InService.next (served : Served uptakes turns session.written)
    (sound : session.connection.writer.IsSound) (noError : session.readError = none)
    (ready : session.phase = .ready) (handler : Handler σ) (now : Nat) :
    (session.next handler now .quiet).InService (uptakes ++ (session.uptake? .quiet).toList) turns ∨
      (session.next handler now .quiet).HasParted (uptakes ++ (session.uptake? .quiet).toList)
        turns := by
  have present := peerGone_of_isSound sound
  rw [next_of_quiet handler now present]
  cases cut : Frame.split session.limit session.buffer with
  | error cause =>
    have nothing : session.uptake? .quiet = none := by
      simp [uptake?, frame?, ready, present, cut]
    obtain ⟨given, isOver⟩ := reject_malformed session sound noError cause.message
    rw [nothing, Option.toList_none, List.append_nil]
    exact .inr (.malformed (.inr ⟨rfl, cause, cut, rfl⟩) served given isOver)
  | ok found =>
    cases found with
    | none =>
      have nothing : session.uptake? .quiet = none := by
        simp [uptake?, frame?, ready, present, cut]
      rw [nothing, Option.toList_none, List.append_nil]
      exact .inl (.between served sound noError (.inr rfl))
    | some parts =>
      obtain ⟨frame, rest⟩ := parts
      have taken : session.uptake? .quiet = some (Message.decode frame) := by
        simp [uptake?, frame?, ready, present, cut]
      rw [taken]
      exact InService.takeMessage { session with buffer := rest } served sound noError handler now
        frame

/-- Until the signal: what comes up is taken up, and ends the session or not. -/
theorem InService.step_quiet (h : session.InService uptakes turns)
    (steps : session.step handler environment now .quiet outside = some (outside', session')) :
    session'.InService (uptakes ++ (session.uptake? .quiet).toList)
        (turns ++ (session.turn? now).toList) ∨
      session'.HasParted (uptakes ++ (session.uptake? .quiet).toList)
        (turns ++ (session.turn? now).toList) := by
  cases h with
  | between served sound noError phase =>
    rw [turn?_of_quiet (not_busy_of_between phase), Option.toList_none, List.append_nil]
    rcases phase with (ready | settled) | idle
    · rw [step_of_ready ready] at steps
      cases steps
      exact InService.next served sound noError ready handler now
    · have nothing : session.uptake? .quiet = none := by
        rw [uptake?, frame?_of_ne_ready (by simp [settled]), Option.map_none]
      simp only [step, settled] at steps
      cases steps
      rw [nothing, Option.toList_none, List.append_nil]
      exact .inl (.between served sound noError (.inl (.inl rfl)))
    · simp [step, idle] at steps
  | during taken served serving turns written sound noError phase =>
    obtain ⟨nothing, goesOn⟩ :=
      (InService.during taken served serving turns written sound noError phase).goesOn phase steps
    rw [nothing, Option.toList_none, List.append_nil]
    exact .inl goesOn

/-- From the signal on: what is under way is completed, and then the session ends. -/
theorem InService.step_shutdown (h : session.InService uptakes turns)
    (steps : session.step handler environment now .shutdown outside = some (outside', session')) :
    session'.InService uptakes (turns ++ (session.turn? now).toList) ∨
      ¬session.IsBusy ∧ session.Notifies .unavailable "Server shutting down" session' ∧
        session'.IsDismissed uptakes (turns ++ (session.turn? now).toList) := by
  cases h with
  | between served sound noError phase =>
    have quiet := not_busy_of_between phase
    obtain ⟨given, isOver⟩ := finishShutdown_isOver sound
    have dismissed : ¬session.IsBusy ∧
        session.Notifies .unavailable "Server shutting down" session.finishShutdown ∧
        session.finishShutdown.IsDismissed uptakes turns :=
      ⟨quiet, given, session.written, served, given, isOver⟩
    rw [turn?_of_quiet quiet, Option.toList_none, List.append_nil]
    rcases phase with (ready | settled) | idle
    · have ends : session.next handler now .shutdown = session.finishShutdown := by
        rw [Session.next, peerGone_of_isSound sound]
        rfl
      rw [step_of_ready ready, ends] at steps
      cases steps
      exact .inr dismissed
    · simp only [step, settled] at steps
      cases steps
      exact .inl (.between served sound noError (.inl (.inl rfl)))
    · simp only [step, idle] at steps
      cases steps
      exact .inr dismissed
  | during taken served serving turns written sound noError phase =>
    exact .inl ((InService.during taken served serving turns written sound noError phase).goesOn
      phase steps).2

theorem InService.receive (h : session.InService uptakes turns) (octets : Octets) :
    (session.receive octets).InService uptakes turns := by
  by_cases hears : session.isReading = true ∧ octets ≠ []
  · rw [receive_eq_feed hears.2 hears.1]
    cases h with
    | between served sound noError phase =>
      rcases phase with (ready | settled) | idle
      · simp [isReading, ready] at hears
      · rw [feed_of_not_idle (by simp [settled])]
        exact .between served sound noError (.inl (.inr settled))
      · rw [feed_of_idle idle]
        exact .between served sound noError (.inl (.inl rfl))
    | during taken served serving turns written sound noError phase =>
      rw [feed_of_not_idle (by simp [phase])]
      exact .during taken served serving turns written sound noError phase
  · rwa [receive_of_not_reading hears]

theorem InService.wake (h : session.InService uptakes turns) :
    session.wake.InService uptakes turns := by
  cases h with
  | between served sound noError phase =>
    have still : session.wake = session := by
      rcases phase with (ready | settled) | idle
      · simp only [Session.wake, ready]
      · simp only [Session.wake, settled]
      · simp only [Session.wake, idle]
    rw [still]
    exact .between served sound noError phase
  | during taken served serving turns written sound noError phase =>
    simp only [Session.wake, phase]
    exact .during taken served serving.wake turns written sound noError rfl

theorem InService.isOpen (h : session.InService uptakes turns) :
    session.phase ≠ .dropped ∧ ∀ result, session.phase ≠ .ended result := by
  cases h with
  | between served sound noError phase =>
    rcases phase with (ready | settled) | idle
    · simp [ready]
    · simp [settled]
    · simp [idle]
  | during taken served serving turns written sound noError phase => simp [phase]

section Parted

theorem HasParted.of_leaving (h : session.HasParted uptakes turns) (leaving : session.IsLeaving)
    (written : session'.written = session.written)
    (ends : session'.IsLeaving ∨ session'.IsOver) : session'.HasParted uptakes turns := by
  cases h with
  | unbound taken last served _ => exact .unbound taken last (written ▸ served) ends
  | malformed _ _ _ isOver => cases leaving.settled.symm.trans isOver.ended

theorem IsLeaving.receive (h : session.IsLeaving) (octets : Octets) :
    (session.receive octets).IsLeaving ∧ (session.receive octets).written = session.written := by
  by_cases hears : session.isReading = true ∧ octets ≠ []
  · rw [receive_eq_feed hears.2 hears.1, feed_of_not_idle (by simp [h.settled])]
    exact ⟨⟨h.sound, h.noError, h.settled⟩, rfl⟩
  · rw [receive_of_not_reading hears]
    exact ⟨h, rfl⟩

theorem IsLeaving.step (h : session.IsLeaving)
    (steps : session.step handler environment now signal outside = some (outside', session')) :
    session'.IsOver ∧ session'.written = session.written := by
  simp only [Session.step, h.settled] at steps
  cases steps
  exact ⟨finishRead_isOver h.sound h.noError, follow_written _ _⟩

end Parted

end Session

namespace Service

variable {ω σ : Type} {number : Nat} {service : Service ω σ} {session : Session σ} {event : Event}
  {uptakes : List (Except DecodeError Message)} {turns : List Turn}

/-- Neither the client nor the transport ends the connection, and it is not dropped. Other
connections may do anything, and there may be signals. -/
def Event.Spares (number : Nat) : Event → Prop
  | .hungUp other | .readFailed other _ | .transportFails other _ _ | .dropped other =>
      other ≠ number
  | _ => True

theorem Event.IsCalm.spares (calm : event.IsCalm number) : event.Spares number := by
  cases event with
  | hungUp | readFailed | transportFails | dropped => exact calm
  | _ => trivial

theorem become_of_spares (spares : event.Spares number)
    (found : service.session? number = some session) :
    (service.uptakeOf? number event = none ∧ service.turnOf? number event = none ∧
        (service.become number event session = session ∨
          (∃ octets, service.become number event session = session.receive octets) ∨
          service.become number event session = session.wake)) ∨
      ∃ outside, session.step (service.handler number) service.environment service.now
          service.signal service.outside = some (outside, service.become number event session) ∧
        service.uptakeOf? number event = session.uptake? service.signal ∧
        service.turnOf? number event = session.turn? service.now := by
  by_cases address : event.number? = some number
  · rw [become_of_self address]
    cases event with
    | received _ octets => exact .inl ⟨rfl, rfl, .inr (.inl ⟨octets, rfl⟩)⟩
    | woken => exact .inl ⟨rfl, rfl, .inr (.inr rfl)⟩
    | stepped =>
      cases address
      have uptake : service.uptakeOf? number (.stepped number) =
          session.uptake? service.signal := by
        simp [uptakeOf?, found]
      have turn : service.turnOf? number (.stepped number) = session.turn? service.now := by
        simp [turnOf?, found]
      rw [uptake, turn, act, Session.advance]
      cases steps : session.step (service.handler number) service.environment service.now
          service.signal service.outside with
      | none => exact .inl ⟨Session.uptake?_of_stuck steps, Session.turn?_of_stuck steps, .inl rfl⟩
      | some next => exact .inr ⟨next.1, rfl, rfl, rfl⟩
    | hungUp | readFailed | transportFails | dropped =>
      cases address
      exact absurd rfl spares
    | connected | signalled | elapsed => exact .inl ⟨rfl, rfl, .inl rfl⟩
  · rw [become_of_other address]
    exact .inl ⟨uptakeOf?_of_ne address, turnOf?_of_ne address, .inl rfl⟩

theorem run_of_ended {result : Except ServiceError Unit} (ended : session.phase = .ended result)
    (found : service.session? number = some session) {events : List Event}
    (spares : ∀ event ∈ events, event.Spares number) :
    (service.run events).session? number = some session ∧
      service.uptakes number events = [] ∧ service.turns number events = [] := by
  induction events generalizing service with
  | nil => exact ⟨found, rfl, rfl⟩
  | cons event rest ih =>
    obtain ⟨sparesNow, sparesLater⟩ := List.forall_mem_cons.1 spares
    have same : service.become number event session = session := by
      refine become_of_ended ended ?_ service
      rintro operation error rfl
      exact sparesNow rfl
    have found' := session?_apply found event
    rw [same] at found'
    obtain ⟨reached, uptakes, turns⟩ := ih found' sparesLater
    rw [Service.uptakes, Service.turns, uptakes, turns]
    rcases become_of_spares sparesNow found with ⟨nothing, silent, -⟩ | ⟨outside, steps, -⟩
    · rw [nothing, silent]
      exact ⟨reached, rfl, rfl⟩
    · rw [Session.step_of_ended ended] at steps
      cases steps

theorem become_parted (h : session.HasParted uptakes turns) (spares : event.Spares number)
    (found : service.session? number = some session) :
    (service.become number event session).HasParted uptakes turns ∧
      (service.become number event session).written = session.written ∧
      service.uptakeOf? number event = none ∧ service.turnOf? number event = none := by
  rcases h.ends with leaving | isOver
  · rcases become_of_spares spares found with
      ⟨nothing, silent, moves⟩ | ⟨outside, steps, uptake, turn⟩
    · have unmoved : (service.become number event session).IsLeaving ∧
          (service.become number event session).written = session.written := by
        rcases moves with same | ⟨octets, heard⟩ | woken
        · rw [same]
          exact ⟨leaving, rfl⟩
        · rw [heard]
          exact leaving.receive octets
        · have still : session.wake = session := by simp only [Session.wake, leaving.settled]
          rw [woken, still]
          exact ⟨leaving, rfl⟩
      exact ⟨h.of_leaving leaving unmoved.2 (.inl unmoved.1), unmoved.2, nothing, silent⟩
    · obtain ⟨isOver, written⟩ := leaving.step steps
      refine ⟨h.of_leaving leaving written (.inr isOver), written, ?_, ?_⟩
      · rw [uptake, Session.uptake?, Session.frame?_of_ne_ready (by simp [leaving.settled]),
          Option.map_none]
      · rw [turn, Session.turn?_of_quiet (Session.settled_quiet leaving.settled)]
  · have same : service.become number event session = session := by
      refine become_of_ended isOver.ended ?_ service
      rintro operation error rfl
      exact spares rfl
    rw [same]
    rcases become_of_spares spares found with ⟨nothing, silent, -⟩ | ⟨outside, steps, -⟩
    · exact ⟨h, rfl, nothing, silent⟩
    · rw [Session.step_of_ended isOver.ended] at steps
      cases steps

theorem run_parted (h : session.HasParted uptakes turns)
    (found : service.session? number = some session) {events : List Event}
    (spares : ∀ event ∈ events, event.Spares number) :
    ∃ session', (service.run events).session? number = some session' ∧
      session'.HasParted uptakes turns ∧ session'.written = session.written ∧
      service.uptakes number events = [] ∧ service.turns number events = [] := by
  induction events generalizing service session with
  | nil => exact ⟨session, found, h, rfl, rfl, rfl⟩
  | cons event rest ih =>
    obtain ⟨sparesNow, sparesLater⟩ := List.forall_mem_cons.1 spares
    obtain ⟨h', written, nothing, silent⟩ := become_parted h sparesNow found
    obtain ⟨session', reached, parted, same, uptakes, turns⟩ :=
      ih h' (session?_apply found event) sparesLater
    refine ⟨session', reached, parted, same.trans written, ?_, ?_⟩
    · rw [Service.uptakes, nothing, uptakes]
      rfl
    · rw [Service.turns, silent, turns]
      rfl

theorem become_inService (h : session.InService uptakes turns) (quiet : service.signal = .quiet)
    (spares : event.Spares number) (found : service.session? number = some session) :
    (service.become number event session).InService
        (uptakes ++ (service.uptakeOf? number event).toList)
        (turns ++ (service.turnOf? number event).toList) ∨
      (service.become number event session).HasParted
        (uptakes ++ (service.uptakeOf? number event).toList)
        (turns ++ (service.turnOf? number event).toList) := by
  rcases become_of_spares spares found with
    ⟨nothing, silent, moves⟩ | ⟨outside, steps, uptake, turn⟩
  · rw [nothing, silent, Option.toList_none, Option.toList_none, List.append_nil, List.append_nil]
    rcases moves with same | ⟨octets, heard⟩ | woken
    · rw [same]
      exact .inl h
    · rw [heard]
      exact .inl (h.receive octets)
    · rw [woken]
      exact .inl h.wake
  · rw [uptake, turn]
    rw [quiet] at steps ⊢
    exact h.step_quiet steps

/-- Before the signal: a session is in service until its client parts from it. -/
theorem run_inService (h : session.InService uptakes turns) (quiet : service.signal = .quiet)
    (found : service.session? number = some session) {events : List Event}
    (calm : ∀ event ∈ events, event.IsCalm number) :
    ∃ session', (service.run events).session? number = some session' ∧
      (session'.InService (uptakes ++ service.uptakes number events)
          (turns ++ service.turns number events) ∨
        session'.HasParted (uptakes ++ service.uptakes number events)
          (turns ++ service.turns number events)) := by
  induction events generalizing service session uptakes turns with
  | nil =>
    rw [Service.uptakes, Service.turns, List.append_nil, List.append_nil]
    exact ⟨session, found, .inl h⟩
  | cons event rest ih =>
    obtain ⟨calmNow, calmLater⟩ := List.forall_mem_cons.1 calm
    have found' := session?_apply found event
    rw [Service.uptakes, Service.turns, ← List.append_assoc, ← List.append_assoc, run_cons]
    rcases become_inService h quiet calmNow.spares found with h' | parted
    · exact ih h' ((signal_apply_of_calm calmNow).trans quiet) found' calmLater
    · obtain ⟨session', reached, still, -, uptakes, turns⟩ := run_parted parted found'
        fun event mem => (calmLater event mem).spares
      rw [uptakes, turns, List.append_nil, List.append_nil]
      exact ⟨session', reached, .inr still⟩

theorem uptakes_of_shutdown (shutdown : service.signal = .shutdown) (events : List Event) :
    service.uptakes number events = [] := by
  induction events generalizing service with
  | nil => rfl
  | cons event rest ih =>
    have nothing : service.uptakeOf? number event = none := by
      unfold uptakeOf?
      split
      · split
        · rw [shutdown]
          cases service.session? number with
          | none => rfl
          | some session =>
            rw [Option.bind_some, Session.uptake?, Session.frame?_of_shutdown, Option.map_none]
        · rfl
      · rfl
    rw [uptakes, nothing, ih (signal_apply_of_shutdown shutdown event)]
    rfl

theorem become_shutdown (h : session.InService uptakes turns)
    (shutdown : service.signal = .shutdown) (spares : event.Spares number)
    (found : service.session? number = some session) :
    (service.become number event session).InService uptakes
        (turns ++ (service.turnOf? number event).toList) ∨
      service.GivesNotice number .unavailable event ∧
        (service.become number event session).IsDismissed uptakes
          (turns ++ (service.turnOf? number event).toList) := by
  rcases become_of_spares spares found with ⟨-, silent, moves⟩ | ⟨outside, steps, -, turn⟩
  · rw [silent, Option.toList_none, List.append_nil]
    rcases moves with same | ⟨octets, heard⟩ | woken
    · rw [same]
      exact .inl h
    · rw [heard]
      exact .inl (h.receive octets)
    · rw [woken]
      exact .inl h.wake
  · rw [turn]
    rw [shutdown] at steps
    rcases h.step_shutdown steps with h' | ⟨quiet, given, dismissed⟩
    · exact .inl h'
    · exact .inr ⟨⟨session, _, _, found, quiet, session?_apply found event, given.gives⟩,
        dismissed⟩

/-- After the signal: a session in service is in service until it is dismissed, with notice. -/
theorem run_shutdown (h : session.InService uptakes turns) (shutdown : service.signal = .shutdown)
    (found : service.session? number = some session) {events : List Event}
    (spares : ∀ event ∈ events, event.Spares number) :
    ∃ session', (service.run events).session? number = some session' ∧
      (session'.InService uptakes (turns ++ service.turns number events) ∨
        session'.IsDismissed uptakes (turns ++ service.turns number events) ∧
          ∃ first event rest, events = first ++ event :: rest ∧
            (service.run first).GivesNotice number .unavailable event) := by
  induction events generalizing service session turns with
  | nil =>
    rw [Service.turns, List.append_nil]
    exact ⟨session, found, .inl h⟩
  | cons event rest ih =>
    obtain ⟨sparesNow, sparesLater⟩ := List.forall_mem_cons.1 spares
    have found' := session?_apply found event
    rw [Service.turns, ← List.append_assoc, run_cons]
    rcases become_shutdown h shutdown sparesNow found with h' | ⟨given, dismissed⟩
    · obtain ⟨session', reached, ends⟩ :=
        ih h' (signal_apply_of_shutdown shutdown event) found' sparesLater
      refine ⟨session', reached, ends.imp_right ?_⟩
      rintro ⟨dismissed, first, next, after, rfl, given⟩
      exact ⟨dismissed, event :: first, next, after, rfl, given⟩
    · obtain ⟨reached, -, turns⟩ := run_of_ended dismissed.isOver.ended found' sparesLater
      rw [turns, List.append_nil]
      exact ⟨_, reached, .inr ⟨dismissed, [], event, rest, rfl, given⟩⟩

/-- An end that comes after the signal is a good one: the client parted from the session
before it and nothing was written since, or the session has been dismissed. -/
theorem over_of_shutdown {session' : Session σ} {result : Except ServiceError Unit}
    (served : session.InService uptakes turns ∨ session.HasParted uptakes turns)
    (shutdown : service.signal = .shutdown) (found : service.session? number = some session)
    {events : List Event} (spares : ∀ event ∈ events, event.Spares number)
    (last : (service.run events).session? number = some session')
    (ended : session'.phase = .ended result) :
    session'.IsOver ∧
      (session'.HasParted uptakes turns ∧ session'.written = session.written ∨
        session'.IsDismissed uptakes (turns ++ service.turns number events) ∧
          ∃ first event rest, events = first ++ event :: rest ∧
            (service.run first).GivesNotice number .unavailable event) := by
  rcases served with inService | parted
  · obtain ⟨_, last', ends⟩ := run_shutdown inService shutdown found spares
    cases last.symm.trans last'
    rcases ends with still | ⟨dismissed, given⟩
    · exact absurd ended (still.isOpen.2 result)
    · exact ⟨dismissed.isOver, .inr ⟨dismissed, given⟩⟩
  · obtain ⟨_, last', still, written, -⟩ := run_parted parted found spares
    cases last.symm.trans last'
    have isOver : session'.IsOver := still.ends.resolve_left fun leaving => by
      cases leaving.settled.symm.trans ended
    exact ⟨isOver, .inl ⟨still, written⟩⟩

theorem signal_run_of_calm (quiet : service.signal = .quiet) {events : List Event}
    (calm : ∀ event ∈ events, event.IsCalm number) : (service.run events).signal = .quiet := by
  induction events generalizing service with
  | nil => exact quiet
  | cons event rest ih =>
    obtain ⟨calmNow, calmLater⟩ := List.forall_mem_cons.1 calm
    exact ih ((signal_apply_of_calm calmNow).trans quiet) calmLater

/-- A server that shuts down while a session is in service, at whatever moment, takes
up nothing more from its client. The session ends, if it is stepped often enough, and it
ends well: what was taken up before the signal has been served, and then exactly one
notice given. Had its client parted from it before the signal, nothing more comes. And in
any run at all, a notice that the session gives is the last that it writes. -/
theorem shuts_down_gracefully
    (opened : service.session? number = some (.start service.limit service.fresh))
    (quiet : service.signal = .quiet) {before : List Event}
    (calm : ∀ event ∈ before, event.IsCalm number) :
    let told := (service.run before).apply (.signalled .shutdown)
    (∀ schedule, IsFair number schedule → ∃ count session result,
        (told.upTo schedule count).session? number = some session ∧
          session.phase = .ended result) ∧
      (∀ after : List Event, (∀ event ∈ after, event.Spares number) →
        told.uptakes number after = [] ∧
          ∀ session result, (told.run after).session? number = some session →
            session.phase = .ended result → session.IsOver ∧
              (session.HasParted (service.uptakes number before) (service.turns number before) ∧
                  (told.session? number).map Session.written = some session.written ∨
                session.IsDismissed (service.uptakes number before)
                    (service.turns number before ++ told.turns number after) ∧
                  ∃ first event rest, after = first ++ event :: rest ∧
                    (told.run first).GivesNotice number .unavailable event)) ∧
      ∀ (events : List Event) (code : ResultCode) (event : Event),
        (service.run events).GivesNotice number code event → ∀ later : List Event,
          let noticed := (service.run events).apply event
          ((noticed.run later).session? number).map Session.written =
              (noticed.session? number).map Session.written ∧
            ∀ code' next, ¬(noticed.run later).GivesNotice number code' next := by
  intro told
  have start : (Session.start service.limit service.fresh).InService [] [] :=
    .between .nil ⟨rfl, rfl, rfl⟩ rfl (.inl (.inl rfl))
  obtain ⟨reached, found, served⟩ := run_inService start quiet opened calm
  rw [List.nil_append, List.nil_append] at served
  have quiet' := signal_run_of_calm quiet calm
  have shutdown : told.signal = .shutdown := by
    simp only [told, apply, heed, quiet', if_true]
  have found' : told.session? number = some reached :=
    (session?_apply_of_other (by simp [Event.number?])).trans found
  refine ⟨?_, ?_, fun events code event given later => given.last later⟩
  · intro schedule fair
    refine ends_of_fair fair found' (.inl shutdown) ?_
    rcases served with inService | parted
    · exact inService.isOpen.1
    · rcases parted.ends with leaving | isOver
      · simp [leaving.settled]
      · simp [isOver.ended]
  · intro after spares
    refine ⟨uptakes_of_shutdown shutdown after, fun session result last ended => ?_⟩
    rw [found', Option.map_some, Option.some.injEq, eq_comm]
    exact over_of_shutdown served shutdown found' spares last ended

/-- A signal in the middle of a search, with another behind it in the buffer: the first
has its two entries and its answer, the second is never taken up. -/
theorem shuts_down_gracefully_search :
    let search : Octets := [0x30, 0x1f, 0x02, 0x01, 0x01, 0x63, 0x1a, 0x04, 0x03, 0x61, 0x3d, 0x31,
      0x0a, 0x01, 0x02, 0x0a, 0x01, 0x00, 0x02, 0x01, 0x00, 0x02, 0x01, 0x00, 0x01, 0x01, 0x00,
      0x87, 0x02, 0x63, 0x6e, 0x30, 0x00]
    let handler : Handler Unit := {
      search := fun request => do
        Streaming.send { dn := request.base }
        Streaming.send { dn := request.base } }
    let service : Service Shared Unit := {
      handler, environment := Shared.environment, limit := 100, fresh := ()
      outside := { directory := ⟨[], List.forall_mem_nil _, List.nodup_nil⟩ }
      sessions := [(1, .start 100 ())] }
    let before : List Event :=
      [.stepped 1, .received 1 (search ++ search), .stepped 1, .stepped 1]
    let told := (service.run before).apply (.signalled .shutdown)
    let after : List Event := List.replicate 4 (.stepped 1)
    ∃ session, (told.run after).session? 1 = some session ∧ session.written.length = 4 ∧
      (service.uptakes 1 before).length = 1 ∧
      session.IsDismissed (service.uptakes 1 before)
        (service.turns 1 before ++ told.turns 1 after) := by
  intro search handler service before told after
  have calm : ∀ event ∈ before, event.IsCalm 1 := by
    simp [before, Event.IsCalm]
  have spares : ∀ event ∈ after, event.Spares 1 := by
    simp [after, Event.Spares]
  have start : ((told.session? 1).map Session.written).map List.length = some 1 := by decide +kernel
  have finish : ((told.run after).session? 1).map (fun session => (session.written.length,
      match session.phase with
      | .ended _ => true
      | _ => false)) = some (4, true) := by decide +kernel
  obtain ⟨session, found, ends⟩ := Option.map_eq_some_iff.1 finish
  obtain ⟨written, ended⟩ := Prod.mk.inj ends
  have taken : (service.uptakes 1 before).length = 1 := by decide +kernel
  have opened : service.session? 1 = some (.start service.limit service.fresh) := rfl
  obtain ⟨-, graceful, -⟩ := shuts_down_gracefully opened rfl calm
  obtain ⟨-, graceful⟩ := graceful after spares
  refine ⟨session, found, written, taken, ?_⟩
  split at ended
  · next result phase =>
    rcases (graceful session result found phase).2 with ⟨-, early⟩ | ⟨dismissed, -⟩
    · rw [early, Option.map_some, written] at start
      cases start
    · exact dismissed
  · cases ended

end Service

end LdapService

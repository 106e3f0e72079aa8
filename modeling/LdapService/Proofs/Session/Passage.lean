import LdapService.Proofs.Session.Alike
import LdapService.Proofs.Session.Underway

/-!
Operations in a service. Whatever happens there, to the connection of an operation or to
another one, is moves of the operation or its end, so a dispatch in a service ends as any
dispatch does. Only a session that is dropped leaves its operation without an end. And
whatever is under way was taken up at some step, and moves have brought it where it is.
-/

namespace LdapService

namespace Session

variable {ω σ : Type} {environment : Environment ω} {session later : Session σ} {task : Task σ}
  {now : Nat}

def underway (now : Nat) (task : Task σ) (session : Session σ) : Underway σ :=
  ⟨now, task, session.connection⟩

theorem underway_of_same {after : Underway σ} (same : session.connection = after.connection) :
    session.underway after.now after.task = after := by
  rw [underway, same]

/-- What becomes of a session with an operation under way: moves bring the operation further,
or it ends and what its session does next is settled, or the session is dropped. -/
inductive GoesThrough (environment : Environment ω) (before : Underway σ) (now : Nat)
    (session : Session σ) : Session σ → Prop
  | further {after : Underway σ} {later : Session σ} (busy : later.phase = .busy after.task)
      (same : later.connection = after.connection) (time : after.now = now)
      (moves : Relation.ReflTransGen (Underway.Moves environment) before after) :
      GoesThrough environment before now session later
  | ended {flow : Flow} {final : Connection σ} (ends : before.Ends environment flow final) :
      GoesThrough environment before now session
        { session with connection := final, phase := .settled flow }
  | dropped {later : Session σ} (dropped : later.phase = .dropped) :
      GoesThrough environment before now session later

theorem GoesThrough.of_same (busy : later.phase = .busy task)
    (same : later.connection = session.connection) :
    GoesThrough environment (session.underway now task) now session later :=
  .further busy same rfl .refl

theorem GoesThrough.moves {before : Underway σ}
    (goes : session.GoesThrough environment before now later) (busy : later.phase = .busy task) :
    Relation.ReflTransGen (Underway.Moves environment) before (later.underway now task) := by
  cases goes with
  | further busy' same time moves =>
    cases busy.symm.trans busy'
    rwa [← time, underway_of_same same]
  | ended => cases busy
  | dropped dropped => cases dropped.symm.trans busy

theorem GoesThrough.of_read (busy : session.phase = .busy task) (changed : Session σ)
    (phase : changed.phase = session.phase)
    (gone : changed.connection = session.markPeerGone.connection) (reads : Bool) :
    GoesThrough environment (session.underway now task) now session
      (if reads then changed.awaken else session) := by
  cases reads with
  | false => exact .of_same busy rfl
  | true =>
    have still : changed.awaken = changed := awaken_of_busy (phase.trans busy)
    rw [if_pos rfl, still]
    exact .further (phase.trans busy) gone rfl (.single .clientLeft)

theorem receive_goesThrough (busy : session.phase = .busy task) (octets : Octets) :
    GoesThrough environment (session.underway now task) now session (session.receive octets) := by
  have still : ({ session with buffer := session.buffer ++ octets } : Session σ).awaken =
      { session with buffer := session.buffer ++ octets } := awaken_of_busy busy
  rw [receive, still]
  split
  · exact .of_same busy rfl
  · exact .of_same busy rfl

theorem advance_goesThrough (busy : session.phase = .busy task) (handler : Handler σ)
    (signal : Signal) (outside : ω) :
    GoesThrough environment (session.underway now task) now session
      (session.advance handler environment now signal outside) := by
  unfold advance step
  rw [busy]
  simp only
  split
  · exact .of_same busy rfl
  · next next outside' connection stepped =>
    exact .further rfl rfl rfl (.single (.stepped stepped))
  · next flow outside' connection stepped =>
    exact .ended ⟨outside, outside', stepped⟩

theorem wake_goesThrough (busy : session.phase = .busy task) :
    GoesThrough environment (session.underway now task) now session session.wake := by
  unfold wake
  rw [busy]
  exact .further rfl rfl rfl (.single .woken)

end Session

namespace Service

variable {ω σ : Type} {service : Service ω σ} {number : Nat} {session : Session σ}
  {task : Task σ}

/-- Every event in a service is moves for an operation that is under way on a connection, or
its end, whichever connection the event is for. -/
theorem become_goesThrough (busy : session.phase = .busy task) (event : Event) :
    session.GoesThrough service.environment (session.underway service.now task)
      (service.apply event).now (service.become number event session) := by
  by_cases address : event.number? = some number
  · rw [become_of_self address, (clock_apply address service).1]
    cases event with
    | received _ octets => exact Session.receive_goesThrough busy octets
    | hungUp => exact .of_read busy session.markPeerGone rfl rfl _
    | readFailed _ error =>
      exact .of_read busy
        { session.markPeerGone with
          readError := if error.isHangUp then session.readError else some error } rfl rfl _
    | transportFails _ operation error =>
      let after := (session.failTransport operation error).underway service.now task
      have phase : (session.failTransport operation error).phase = .busy after.task := busy
      exact .further phase rfl rfl (.single (.failed operation error))
    | stepped => exact Session.advance_goesThrough busy _ _ _
    | woken => exact Session.wake_goesThrough busy
    | dropped =>
      refine .dropped ?_
      simp only [act, Session.drop, busy]
    | connected | signalled | elapsed => exact .of_same busy rfl
  · rw [become_of_other address]
    cases event with
    | elapsed milliseconds => exact .further busy rfl rfl (.single (.elapsed milliseconds))
    | signalled signal =>
      have still : (service.heed signal).now = service.now := by
        unfold heed
        split
        · rfl
        · rfl
      rw [apply, still]
      exact .of_same busy rfl
    | connected | received | hungUp | readFailed | transportFails | stepped | woken | dropped =>
      rw [(clock_apply rfl service).1]
      exact .of_same busy rfl

/-- How an operation of a service fares in a run: it is under way still, or at some event it
ended and so it was settled what its session does next, or its session was dropped. -/
inductive Fares (number : Nat) (message : Message) (start : Connection σ) :
    Service ω σ → List Event → Prop
  | underWay {service : Service ω σ} {session : Session σ} {task : Task σ}
      (found : service.session? number = some session) (busy : session.phase = .busy task)
      (arises : (session.underway service.now task).Arises (service.handler number)
        service.environment message start) : Fares number message start service []
  | ended {service : Service ω σ} {event : Event} {session : Session σ} {flow : Flow}
      {final : Connection σ}
      (found : (service.apply event).session? number =
        some { session with connection := final, phase := .settled flow })
      (dispatches :
        Dispatches (service.handler number) service.environment message start flow final)
      (rest : List Event) : Fares number message start service (event :: rest)
  | dropped {service : Service ω σ} {event : Event} {session : Session σ}
      (found : (service.apply event).session? number = some session)
      (dropped : session.phase = .dropped) (rest : List Event) :
      Fares number message start service (event :: rest)
  | later {service : Service ω σ} {event : Event} {rest : List Event}
      (fares : Fares number message start (service.apply event) rest) :
      Fares number message start service (event :: rest)

theorem run_fares {message : Message} {start : Connection σ}
    (found : service.session? number = some session) (busy : session.phase = .busy task)
    (arises : (session.underway service.now task).Arises (service.handler number)
      service.environment message start) (events : List Event) :
    Fares number message start service events := by
  induction events generalizing service session task with
  | nil => exact .underWay found busy arises
  | cons event rest ih =>
    have next := session?_apply found event
    have goes : session.GoesThrough _ _ _ (service.become number event session) :=
      become_goesThrough busy event
    generalize service.become number event session = later at next goes
    cases goes with
    | @further after _ busy same time moves =>
      refine .later (ih next busy ?_)
      rw [← time, Session.underway_of_same same, handler_apply, environment_apply]
      exact arises.path moves
    | ended ends => exact .ended next (.afterwards arises ends) rest
    | dropped dropped => exact .dropped next dropped rest

/-- What is under way has been taken up at some step of a run, and has moved on since. -/
inductive TakenUp (number : Nat) (service : Service ω σ) (events : List Event)
    (reached : Underway σ) : Prop
  | intro {earlier later : List Event} {before : Session σ} {message : Message} {task : Task σ}
      {opened : Connection σ} (split : events = earlier ++ .stepped number :: later)
      (found : (service.run earlier).session? number = some before)
      (takes : before.taken? (service.run earlier).signal = some message)
      (begins : { before.connection with stage := .decoding }.begin (service.handler number)
        (service.run earlier).now message = (.inr task, opened))
      (moves : Relation.ReflTransGen (Underway.Moves service.environment)
        ⟨(service.run earlier).now, task, opened⟩ reached) : TakenUp number service events reached

theorem TakenUp.later {events : List Event} {reached after : Underway σ}
    (taken : TakenUp number service events reached)
    (moves : Relation.ReflTransGen (Underway.Moves service.environment) reached after)
    (event : Event) : TakenUp number service (events ++ [event]) after := by
  obtain @⟨earlier, rest, _, _, _, _, split, found, takes, begins, path⟩ := taken
  have longer : events ++ [event] = earlier ++ .stepped number :: (rest ++ [event]) := by
    rw [split, List.append_assoc, List.cons_append]
  exact .intro longer found takes begins (path.trans moves)

end Service

end LdapService

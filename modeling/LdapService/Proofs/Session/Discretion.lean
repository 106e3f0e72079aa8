import LdapService.Proofs.Handler.Trouble
import LdapService.Proofs.Session.Beside
import LdapService.Proofs.Session.Blocks
import LdapService.Proofs.Session.Fates
import LdapService.Proofs.Session.Written

/-!
What goes wrong inside stays inside. Two services that are the same but for what the
failures of their stores, the internal errors of their handlers and the crashes say go
through every run of events in lockstep, so all clients are told the same. An operation
that ends in one of these is answered with the code for other failures and no text, and
its connection goes on.
-/

namespace LdapService

def Environment.DiffersInTrouble {ω ω' : Type} (same : ω → ω' → Prop)
    (first : Environment ω) (second : Environment ω') : Prop :=
  ∀ question outside outside', same outside outside' →
    Backend.lapse.Same question (first.answer question outside).1
        (second.answer question outside').1 ∧
      same (first.answer question outside).2 (second.answer question outside').2

variable {ω ω' σ : Type} {same : ω → ω' → Prop} {environment : Environment ω}
  {environment' : Environment ω'}

theorem Exchange.answer_same (differs : environment.DiffersInTrouble same environment') (now : Nat)
    (question : Streaming.Question) {outside : ω} {outside' : ω'} (shared : same outside outside')
    (stream : SearchStream) (connection : Connection σ) :
    let told := answer environment now question ⟨outside, stream, connection⟩
    let told' := answer environment' now question ⟨outside', stream, connection⟩
    Streaming.lapse.Same question told.1 told'.1 ∧ same told.2.outside told'.2.outside ∧
      told'.2.stream = told.2.stream ∧ told'.2.connection = told.2.connection := by
  cases question with
  | backend question =>
    obtain ⟨answers, later⟩ := differs question outside outside' shared
    exact ⟨answers, later, rfl, rfl⟩
  | send entry =>
    have seen : (Streaming.Question.send entry).IsSeen := trivial
    rw [answer_seen environment environment' now seen outside outside' stream connection]
    refine ⟨.inl rfl, ?_, rfl, rfl⟩
    have untouched := (Exchange.send_memory now entry
      (⟨outside, stream, connection⟩ : Exchange ω σ)).1
    exact untouched.symm ▸ shared
  | isClosed => exact ⟨.inl rfl, shared, rfl, rfl⟩

namespace Session

theorem step_of_crash {session : Session σ} {task : Task σ} {memory : σ} {reason : Option String}
    (busy : session.phase = .busy task) (crashes : task.program = .crash memory reason)
    (handler : Handler σ) (environment : Environment ω) (now : Nat) (signal : Signal)
    (outside : ω) :
    session.step handler environment now signal outside =
      let concluded := session.connection.conclude task memory (.error .serverError)
      some (outside, { session with
        connection := concluded.2
        phase := .settled concluded.1 }) := by
  simp only [step, busy, Task.step, crashes]

theorem step_of_wait {session : Session σ} {task : Task σ}
    {next : Program streaming σ (Except Failure Reply)} (busy : session.phase = .busy task)
    (waits : task.program = .wait next) (handler : Handler σ) (environment : Environment ω)
    (now : Nat) (signal : Signal) (outside : ω) :
    session.step handler environment now signal outside = none := by
  simp only [step, busy, Task.step, waits]

/-- The same sessions but for what failures that are still to come say. -/
abbrev Twins : Session σ → Session σ → Prop :=
  AlikeUpTo fun program other => program.Corresponds Streaming.lapse Eq other

variable {first second : Session σ}

theorem Twins.wake (h : first.Twins second) : first.wake.Twins second.wake := by
  cases h with
  | quiet quiet =>
    have still : first.wake = first := by
      unfold Session.wake
      split
      · next task busy => exact absurd ⟨task, busy⟩ quiet
      · rfl
    rw [still]
    exact .quiet quiet
  | @busy _ task other phase goes same =>
    subst same
    obtain ⟨id, kind, response, stream, program⟩ := task
    simp only [Session.wake, phase, Task.wake]
    cases goes with
    | wait rest => exact .busy rfl rest rfl
    | done memory same => exact .busy rfl (.done memory same) rfl
    | crash memory reason reason' => exact .busy rfl (.crash memory reason reason') rfl
    | ask rest => exact .busy rfl (.ask rest) rfl

theorem Twins.step (h : first.Twins second) {handler handler' : Handler σ}
    (performs : ∀ request memory, (handler.perform request memory).Corresponds Streaming.lapse Eq
      (handler'.perform request memory))
    (differs : environment.DiffersInTrouble same environment') (now : Nat) (signal : Signal)
    {outside : ω} {outside' : ω'} (shared : same outside outside') :
    Option.Rel (fun one other => same one.1 other.1 ∧ one.2.Twins other.2)
      (first.step handler environment now signal outside)
      (second.step handler' environment' now signal outside') := by
  cases h with
  | quiet quiet =>
    have taken (message : Message) (_ : first.taken? signal = some message) :=
      performs message.request first.connection.memory
    have made := step_alike environment environment' now outside outside' quiet taken
    generalize first.step handler environment now signal outside = one,
      first.step handler' environment' now signal outside' = other at made
    cases made with
    | none => exact .none
    | some later =>
      obtain ⟨⟨still, still'⟩, twins⟩ := later
      refine .some ⟨?_, twins⟩
      rw [still, still']
      exact shared
  | @busy _ task other phase goes same =>
    subst same
    generalize program : task.program = left at goes
    cases goes with
    | done memory same =>
      subst same
      rw [step_of_done phase program, step_of_done rfl rfl]
      exact .some ⟨shared, .quiet (settled_quiet rfl)⟩
    | crash memory reason reason' =>
      rw [step_of_crash phase program, step_of_crash rfl rfl]
      exact .some ⟨shared, .quiet (settled_quiet rfl)⟩
    | wait rest =>
      rw [step_of_wait phase program, step_of_wait rfl rfl]
      exact .none
    | @ask question next next' rest =>
      obtain ⟨answers, later, stream, connection⟩ :=
        Exchange.answer_same differs now question shared task.stream first.connection
      rw [step_of_ask phase program, step_of_ask rfl rfl]
      refine .some ⟨later, .busy rfl (rest _ _ answers) ?_⟩
      simp only [stream, connection]

/-- The session with an operation that has been answered with the code for other failures and no
text, and counted under that code. -/
def answerOther (task : Task σ) (memory : σ) (session : Session σ) : Session σ :=
  { session with
    connection := {
      memory
      stage := .idle
      writer := session.connection.writer.sent (Response.plain task.id task.response .other "")
      observed := session.connection.observed ++ [.operation task.kind.name .other] }
    phase := .settled .proceed }

/-- It is answered so, and the connection is ready for the next message. -/
theorem step_of_internal {session : Session σ} {task : Task σ} {memory : σ}
    (busy : session.phase = .busy task)
    (ends : task.program = .done memory (.error .serverError) ∨
      ∃ reason, task.program = .crash memory reason)
    (sound : session.connection.writer.IsSound) (handler : Handler σ)
    (environment : Environment ω) (now : Nat) (signal : Signal) (outside : ω) :
    session.step handler environment now signal outside =
      some (outside, session.answerOther task memory) ∧
    ∀ now' signal' outside',
      (session.answerOther task memory).step handler environment now' signal' outside' =
        some (outside', { session.answerOther task memory with phase := .ready }) := by
  have counted : (({ session.connection with memory, stage := .completed } :
      Connection σ).observe (.operation task.kind.name .other)).writer.IsSound := sound
  have finished : session.connection.conclude task memory (.error .serverError) = _ :=
    Connection.finish_sent counted (Response.message_ne_nil _ _)
  refine ⟨?_, fun _ _ _ => rfl⟩
  rcases ends with ends | ⟨reason, crashes⟩
  · rw [step_of_done busy ends]
    simp only [finished]
    rfl
  · rw [step_of_crash busy crashes]
    simp only [finished]
    rfl

section Runs

def Runs (kept : Program streaming σ (Except Failure Reply) → Prop) (session : Session σ) : Prop :=
  ∀ task, session.phase = .busy task → kept task.program

variable {kept : Program streaming σ (Except Failure Reply) → Prop} {session session' : Session σ}

theorem Runs.of_quiet (quiet : ¬session.IsBusy) : session.Runs kept :=
  fun task busy => absurd ⟨task, busy⟩ quiet

theorem Runs.of_phase (h : session.Runs kept)
    (phase : ∀ task, session'.phase = .busy task → session.phase = .busy task) :
    session'.Runs kept :=
  fun task busy => h task (phase task busy)

theorem Runs.read (h : session.Runs kept) (changed : Session σ)
    (phase : changed.phase = session.phase) (reads : Bool) :
    (if reads then changed.awaken else session).Runs kept := by
  split
  · exact h.of_phase fun task busy => phase ▸ phase_of_awaken busy
  · exact h

theorem Runs.wake (h : session.Runs kept) (wakes : ∀ {next}, kept (.wait next) → kept next) :
    session.wake.Runs kept := by
  unfold Session.wake
  split
  · next task busy =>
    rintro _ ⟨⟩
    have goes := h task busy
    unfold Task.wake
    split
    · next waits =>
      rw [waits] at goes
      exact wakes goes
    · exact goes
  · exact h

theorem Runs.step {handler : Handler σ} (h : session.Runs kept)
    (performs : ∀ request memory, kept (handler.perform request memory))
    (goesOn : ∀ {question next}, kept (.ask question next) → ∀ answer, kept (next answer))
    (environment : Environment ω) (now : Nat) (signal : Signal) (outside : ω) :
    (session.advance handler environment now signal outside).Runs kept := by
  unfold Session.advance
  cases phase : session.phase with
  | ready =>
    simp only [Session.step, phase, Option.elim_some]
    intro task busy
    obtain ⟨message, -, begins⟩ := next_busy phase busy
    rw [Connection.begin_program begins]
    exact performs _ _
  | idle =>
    simp only [Session.step, phase]
    split
    · exact h
    · exact .of_quiet (finish_quiet _ _)
  | busy task =>
    cases program : task.program with
    | done memory outcome =>
      rw [step_of_done phase program]
      exact .of_quiet (settled_quiet rfl)
    | crash memory reason =>
      rw [step_of_crash phase program]
      exact .of_quiet (settled_quiet rfl)
    | wait next =>
      rw [step_of_wait phase program]
      exact h
    | ask question next =>
      rw [step_of_ask phase program]
      rintro _ ⟨⟩
      have goes := h task phase
      rw [program] at goes
      exact goesOn goes _
  | settled flow =>
    simp only [Session.step, phase, Option.elim_some]
    exact .of_quiet (follow_quiet _ _)
  | ended | dropped =>
    simp only [Session.step, phase]
    exact h

end Runs

end Session

namespace Service

/-- What a handler's programs are like, and what the rest of such a program is like,
the program under way is like in every run. -/
theorem run_runs {service : Service ω σ} {number : Nat} {session : Session σ}
    {kept : Program streaming σ (Except Failure Reply) → Prop}
    (performs : ∀ request memory, kept ((service.handler number).perform request memory))
    (goesOn : ∀ {question next}, kept (.ask question next) → ∀ answer, kept (next answer))
    (wakes : ∀ {next}, kept (.wait next) → kept next)
    (found : service.session? number = some session) (start : session.Runs kept)
    (events : List Event) :
    ∃ session', (service.run events).session? number = some session' ∧ session'.Runs kept := by
  refine run_keeps_with (Session.Runs kept) ?_ found start events
  intro other event session same h
  by_cases address : event.number? = some number
  · rw [become_of_self address]
    cases event with
    | received number octets =>
      exact h.read { session with buffer := session.buffer ++ octets } rfl _
    | hungUp => exact h.read session.markPeerGone rfl _
    | readFailed number error =>
      exact h.read { session.markPeerGone with
        readError := if error.isHangUp then session.readError else some error } rfl _
    | transportFails => exact h.of_phase fun _ => id
    | stepped =>
      refine h.step ?_ goesOn _ _ _ _
      rw [same]
      exact performs
    | woken => exact h.wake wakes
    | dropped => exact .of_quiet session.drop_quiet
    | connected | signalled | elapsed => exact h
  · rw [become_of_other address]
    exact h

theorem outside_apply {event : Event} (other : ∀ number, event ≠ .stepped number)
    (service : Service ω σ) : (service.apply event).outside = service.outside := by
  have altered (number : Nat) (change : Session σ → Session σ) :
      (service.alter number change).outside = service.outside := by
    unfold alter
    split
    · rfl
    · rfl
  cases event with
  | connected =>
    simp only [apply, connect]
    split
    · rfl
    · rfl
  | received | hungUp | readFailed | transportFails | woken | dropped => exact altered _ _
  | stepped number => exact absurd rfl (other number)
  | signalled =>
    simp only [apply, heed]
    split
    · rfl
    · rfl
  | elapsed => rfl

/-- The same services but for what internal failures and crashes say: those of the store,
those of the handlers, and those that operations under way may still come to. -/
structure DiffersInTrouble (same : ω → ω' → Prop) (first : Service ω σ) (second : Service ω' σ) :
    Prop where
  handlers : ∀ number, (first.handler number).DiffersInTrouble (second.handler number)
  environments : first.environment.DiffersInTrouble same second.environment
  outside : same first.outside second.outside
  limit : second.limit = first.limit
  fresh : second.fresh = first.fresh
  now : second.now = first.now
  signal : second.signal = first.signal
  sessions : ∀ number, Option.Rel Session.Twins (first.session? number) (second.session? number)

variable {first : Service ω σ} {second : Service ω' σ}

theorem DiffersInTrouble.beside (h : first.DiffersInTrouble same second) (number : Nat) :
    Beside (fun program other => program.Corresponds Streaming.lapse Eq other) number first second :=
  ⟨h.limit, h.fresh, h.now, h.signal, h.sessions number⟩

theorem DiffersInTrouble.step (h : first.DiffersInTrouble same second) (number : Nat) :
    same (first.step number).outside (second.step number).outside ∧
      Option.Rel Session.Twins ((first.step number).session? number)
        ((second.step number).session? number) := by
  have session := h.sessions number
  unfold Service.step
  generalize hereIs : first.session? number = one, thereIs : second.session? number = other
    at session
  cases session with
  | none =>
    refine ⟨h.outside, ?_⟩
    simp only [hereIs, thereIs]
    exact .none
  | @some session session' twins =>
    have made := twins.step (fun request memory => (h.handlers number).corresponds request memory)
      h.environments first.now first.signal h.outside
    simp only [h.now, h.signal]
    generalize session.step (first.handler number) first.environment first.now first.signal
        first.outside = stepped,
      session'.step (second.handler number) second.environment first.now first.signal
        second.outside = stepped' at made
    cases made with
    | none =>
      refine ⟨h.outside, ?_⟩
      simp only [hereIs, thereIs]
      exact .some twins
    | some later =>
      refine ⟨later.1, ?_⟩
      simp only [session?_put_self]
      exact .some later.2

theorem DiffersInTrouble.apply (h : first.DiffersInTrouble same second) (event : Event) :
    (first.apply event).DiffersInTrouble same (second.apply event) := by
  have beside (number : Nat) : Beside (fun program other =>
      program.Corresponds Streaming.lapse Eq other) number (first.apply event)
      (second.apply event) := by
    refine (h.beside number).same ?_ fun one other twins _ _ => Session.Twins.wake twins
    rintro rfl
    exact (h.step number).2
  refine ⟨?_, ?_, ?_, (beside 0).limit, (beside 0).fresh, (beside 0).now, (beside 0).signal,
    fun number => (beside number).session⟩
  · rw [handler_apply, handler_apply]
    exact h.handlers
  · rw [environment_apply, environment_apply]
    exact h.environments
  · by_cases stepped : ∃ number, event = .stepped number
    · obtain ⟨number, rfl⟩ := stepped
      exact (h.step number).1
    · have other : ∀ number, event ≠ .stepped number := fun number same => stepped ⟨number, same⟩
      rw [outside_apply other, outside_apply other]
      exact h.outside

theorem DiffersInTrouble.run (h : first.DiffersInTrouble same second) (events : List Event) :
    (first.run events).DiffersInTrouble same (second.run events) := by
  induction events generalizing first second with
  | nil => exact h
  | cons event rest ih => exact ih (h.apply event)

/-- What internal failures and crashes say, no client learns. Two services that differ in
nothing else go through every run alike, directory services among them; an operation that
ends so is answered with the code for other failures and no text, and its connection goes
on; and where the store of a directory service fails, that is what becomes of the
operation, but for the password that a search asks for, whose failure is as if there
were none. -/
theorem internal_failures_stay_inside :
    (∀ {ω ω' σ : Type} {same : ω → ω' → Prop} {first : Service ω σ} {second : Service ω' σ},
      first.DiffersInTrouble same second → ∀ (events : List Event) (number : Nat),
        Option.Rel Session.LooksLike ((first.run events).session? number)
          ((second.run events).session? number)) ∧
    (∀ service : DirectoryService, service.handler.DiffersInTrouble service.handler) ∧
    (∀ trouble : Trouble, trouble.IsInternal → trouble.failure = .serverError) ∧
    (∀ {ω σ : Type} {session : Session σ} {task : Task σ} {memory : σ},
      session.phase = .busy task →
      (task.program = .done memory (.error .serverError) ∨
        ∃ reason, task.program = .crash memory reason) →
      session.connection.writer.IsSound →
      ∀ (handler : Handler σ) (environment : Environment ω) (now : Nat) (signal : Signal)
        (outside : ω),
        session.step handler environment now signal outside =
          some (outside, session.answerOther task memory) ∧
        ∀ now' signal' outside',
          (session.answerOther task memory).step handler environment now' signal' outside' =
            some (outside', { session.answerOther task memory with phase := .ready })) ∧
    ∀ {ω : Type} {service : Service ω Identity} {number : Nat} {session : Session Identity}
      (directory : DirectoryService), service.handler number = directory.handler →
      service.session? number = some session → ¬session.IsBusy → ∀ events : List Event,
        ∃ session', (service.run events).session? number = some session' ∧
          ∀ task, session'.phase = .busy task →
            ∀ question next, task.program = .ask question next →
              Program.HushesAt Streaming.lapse question next := by
  refine ⟨fun differs events number => ((differs.run events).beside number).looksLike,
    fun service => Handler.differsInTrouble_self service.perform_hushes,
    fun _ internal => Trouble.failure_of_isInternal internal,
    fun busy ends sound => Session.step_of_internal busy ends sound, ?_⟩
  intro ω service number session directory serves found quiet events
  obtain ⟨session', found', runs⟩ := run_runs
    (fun request memory => serves ▸ directory.perform_hushes request memory)
    (fun hushes => hushes.2) id found (.of_quiet quiet) events
  refine ⟨session', found', fun task busy question next asks => ?_⟩
  have hushes := runs task busy
  rw [asks] at hushes
  exact hushes.1

/-- A search whose store fails, in one of two ways. -/
theorem internal_failures_stay_inside_store :
    let answer (error : ServiceError) : (question : Backend.Question) → Backend.Answer question
      | .listEntries | .getEntry _ | .verifyPassword _ _ | .password _ => .error error
      | .recall _ _ => false
      | .remember _ _ | .forget _ => ()
    let service (error : ServiceError) : Service Unit Identity := {
      handler := fun _ => (DirectoryService.ofBase "" true).handler
      environment := ⟨fun question outside => (answer error question, outside)⟩
      limit := 100
      fresh := .anonymous
      outside := () }
    let search : Octets := [0x30, 0x1f, 0x02, 0x01, 0x01, 0x63, 0x1a, 0x04, 0x03, 0x61, 0x3d, 0x31,
      0x0a, 0x01, 0x02, 0x0a, 0x01, 0x00, 0x02, 0x01, 0x00, 0x02, 0x01, 0x00, 0x01, 0x01, 0x00,
      0x87, 0x02, 0x63, 0x6e, 0x30, 0x00]
    let events : List Event := [.connected 1, .stepped 1, .received 1 search] ++
      List.replicate 3 (.stepped 1)
    (((service .connectionClosed).run events).session? 1).map Session.written =
        some [Response.plain 1 .searchDone .other ""] ∧
      Option.Rel Session.LooksLike (((service .connectionClosed).run events).session? 1)
        (((service (.internal "disk full")).run events).session? 1) := by
  intro answer service search events
  refine ⟨by decide +kernel, ?_⟩
  have differs : (service .connectionClosed).DiffersInTrouble Eq
      (service (.internal "disk full")) := by
    refine ⟨fun _ => internal_failures_stay_inside.2.1 _, ?_, rfl, rfl, rfl, rfl, rfl,
      fun _ => .none⟩
    rintro question _ _ rfl
    refine ⟨?_, rfl⟩
    cases question with
    | listEntries | getEntry | verifyPassword | password => exact .inr ⟨⟨_, rfl⟩, ⟨_, rfl⟩⟩
    | «recall» | remember | forget => exact .inl rfl
  exact internal_failures_stay_inside.1 differs events 1

end Service

end LdapService

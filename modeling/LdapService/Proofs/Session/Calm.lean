import LdapService.Proofs.Session.Events

/-!
Runs in which nothing from outside ends a connection: no end of its stream, no failure
of its transport, no drop and no signal. What its session does in them is said once,
as the moves of a session; properties of runs then follow from properties of moves.
-/

namespace LdapService

/-- What a handler does on the way to an answer: it sends an entry, with the outcome
that it gets, or it ends the operation, without a value when it crashes. -/
inductive Turn where
  | sent (entry : Entry) (outcome : Except Failure Unit)
  | ended (outcome : Option (Except Failure Reply))

def Task.turn? {σ : Type} (now : Nat) (writer : Writer) (task : Task σ) : Option Turn :=
  match task.program with
  | .done _ outcome => some (.ended (some outcome))
  | .crash _ _ => some (.ended none)
  | .ask (.send entry) _ => some (.sent entry (task.stream.send Writer.sink now entry writer).1)
  | _ => none

namespace Session

variable {ω σ : Type}

def turn? (now : Nat) (session : Session σ) : Option Turn :=
  match session.phase with
  | .busy task => task.turn? now session.connection.writer
  | _ => none

/-- One move of a session on a quiet server, with the octets it hears, the turn of its
handler and how often that is woken. Others may meddle with what it shares with them. -/
inductive Move (handler : Handler σ) (environment : Environment ω) (meddles : ω → ω → Prop) :
    Octets → Option Turn → Nat → ω × Session σ → ω × Session σ → Prop
  | still {outside outside' : ω} (session : Session σ) (meddled : meddles outside outside') :
      Move handler environment meddles [] none 0 (outside, session) (outside', session)
  | hear {octets : Octets} (outside : ω) {session : Session σ} (some : octets ≠ [])
      (reads : session.isReading = true) :
      Move handler environment meddles octets none 0 (outside, session)
        (outside, session.receive octets)
  | step {now : Nat} {outside outside' : ω} {session session' : Session σ}
      (steps : session.step handler environment now .quiet outside = some (outside', session')) :
      Move handler environment meddles [] (session.turn? now) 0 (outside, session)
        (outside', session')
  | wake (outside : ω) {session : Session σ} (waits : session.isWaiting = true) :
      Move handler environment meddles [] none 1 (outside, session) (outside, session.wake)

/-- The next message is going to be looked for, if nothing comes in between. -/
def IsFree (session : Session σ) : Prop :=
  session.phase = .ready ∨ session.phase = .settled .proceed

theorem receive_of_not_reading {octets : Octets} {session : Session σ}
    (h : ¬(session.isReading = true ∧ octets ≠ [])) : session.receive octets = session := by
  unfold receive
  rw [if_neg (by simpa using h)]

theorem wake_of_not_waiting {session : Session σ} (h : session.isWaiting ≠ true) :
    session.wake = session := by
  unfold isWaiting at h
  unfold wake
  split
  · next task busy =>
    rw [busy] at h
    unfold Task.wake
    split
    · next waits =>
      simp [waits] at h
    · rw [← busy]
  · rfl

theorem exists_of_waiting {session : Session σ} (waits : session.isWaiting = true) :
    ∃ task rest, session.phase = .busy task ∧ task.program = .wait rest := by
  unfold isWaiting at waits
  split at waits
  · next task busy =>
    split at waits
    · next rest program => exact ⟨task, rest, busy, program⟩
    · cases waits
  · cases waits

theorem wake_decreases {session : Session σ} (waits : session.isWaiting = true) :
    session.wake.weight = session.weight ∧ Program.Follows session.wake.program session.program := by
  obtain ⟨task, rest, busy, program⟩ := exists_of_waiting waits
  simp only [wake, busy, Task.wake, program, weight, Session.program]
  exact ⟨trivial, .wait rest⟩

theorem turn?_of_stuck {handler : Handler σ} {environment : Environment ω} {now : Nat}
    {signal : Signal} {outside : ω} {session : Session σ}
    (stuck : session.step handler environment now signal outside = none) :
    session.turn? now = none := by
  unfold turn?
  split
  · next task busy =>
    simp only [step, busy, Task.step] at stuck
    unfold Task.turn?
    split
    · next ends => simp [ends] at stuck
    · next crashes => simp [crashes] at stuck
    · next asks => simp [asks] at stuck
    · rfl
  · rfl

theorem next_of_quiet {session : Session σ} (handler : Handler σ) (now : Nat)
    (present : session.connection.writer.peerGone = false) :
    session.next handler now .quiet =
      match Frame.split session.limit session.buffer with
      | .error cause => session.reject (.ofMalformation cause)
      | .ok none => { session with phase := .idle }
      | .ok (some (frame, rest)) => { session with buffer := rest }.takeMessage handler now frame := by
  unfold next
  rw [present, if_neg Bool.false_ne_true]
  exact if_neg (by simp)

theorem limit_follow (flow : Flow) (session : Session σ) :
    (session.follow flow).limit = session.limit := by
  cases flow with
  | proceed => rfl
  | close => rfl

theorem limit_takeMessage (handler : Handler σ) (now : Nat) (frame : Octets)
    (session : Session σ) : (session.takeMessage handler now frame).limit = session.limit := by
  unfold takeMessage
  simp only
  split
  · exact limit_follow _ _
  · split
    · rfl
    · rfl

theorem limit_next (handler : Handler σ) (now : Nat) (signal : Signal) (session : Session σ) :
    (session.next handler now signal).limit = session.limit := by
  unfold next
  split
  · rfl
  · split
    · rfl
    · split
      · exact limit_follow _ _
      · rfl
      · exact limit_takeMessage _ _ _ _

theorem limit_step {handler : Handler σ} {environment : Environment ω} {now : Nat}
    {signal : Signal} {outside outside' : ω} {session session' : Session σ}
    (steps : session.step handler environment now signal outside = some (outside', session')) :
    session'.limit = session.limit := by
  unfold step at steps
  split at steps
  · cases steps
    exact limit_next _ _ _ _
  · split at steps
    · cases steps
    · cases steps
      rfl
  · split at steps
    · cases steps
    · cases steps
      rfl
    · cases steps
      rfl
  · cases steps
    exact limit_follow _ _
  · cases steps
  · cases steps

theorem Move.limit_eq {handler : Handler σ} {environment : Environment ω} {meddles : ω → ω → Prop}
    {octets : Octets} {turn : Option Turn} {wakes : Nat} {state next : ω × Session σ}
    (moved : Move handler environment meddles octets turn wakes state next) :
    next.2.limit = state.2.limit := by
  cases moved with
  | still => rfl
  | hear outside some reads =>
    unfold receive awaken
    split
    · split
      · rfl
      · rfl
    · rfl
  | step steps => exact limit_step steps
  | wake outside waits =>
    unfold Session.wake
    split
    · rfl
    · rfl

end Session

namespace Service

variable {ω σ : Type}

/-- Nothing that ends the connection from outside. Other connections may do anything. -/
def Event.IsCalm (number : Nat) : Event → Prop
  | .signalled _ => False
  | .hungUp other | .readFailed other _ | .transportFails other _ _ | .dropped other =>
      other ≠ number
  | _ => True

def heardOf (number : Nat) (service : Service ω σ) : Event → Octets
  | .received other octets =>
      if other = number ∧ (service.session? number).any Session.isReading then octets else []
  | _ => []

def turnOf? (number : Nat) (service : Service ω σ) : Event → Option Turn
  | .stepped other =>
      if other = number then (service.session? number).bind (Session.turn? service.now) else none
  | _ => none

def wakesOf (number : Nat) (service : Service ω σ) : Event → Nat
  | .woken other =>
      if other = number ∧ (service.session? number).any Session.isWaiting then 1 else 0
  | _ => 0

def heard (number : Nat) (service : Service ω σ) : List Event → Octets
  | [] => []
  | event :: rest => service.heardOf number event ++ (service.apply event).heard number rest

def turns (number : Nat) (service : Service ω σ) : List Event → List Turn
  | [] => []
  | event :: rest => (service.turnOf? number event).toList ++ (service.apply event).turns number rest

def wakes (number : Nat) (service : Service ω σ) : List Event → Nat
  | [] => 0
  | event :: rest => service.wakesOf number event + (service.apply event).wakes number rest

variable {number : Nat} {service : Service ω σ} {session : Session σ}

theorem heard_append (first second : List Event) :
    service.heard number (first ++ second) =
      service.heard number first ++ (service.run first).heard number second := by
  induction first generalizing service with
  | nil => rfl
  | cons event rest ih => rw [List.cons_append, heard, ih, heard, run_cons, List.append_assoc]

theorem heardOf_of_ne {event : Event} (other : event.number? ≠ some number) :
    service.heardOf number event = [] := by
  unfold heardOf
  split
  · next different octets =>
    have ne : different ≠ number := fun same => other (congrArg some same)
    rw [if_neg fun both => ne both.1]
  · rfl

theorem turnOf?_of_ne {event : Event} (other : event.number? ≠ some number) :
    service.turnOf? number event = none := by
  unfold turnOf?
  split
  · next different =>
    have ne : different ≠ number := fun same => other (congrArg some same)
    rw [if_neg ne]
  · rfl

theorem wakesOf_of_ne {event : Event} (other : event.number? ≠ some number) :
    service.wakesOf number event = 0 := by
  unfold wakesOf
  split
  · next different =>
    have ne : different ≠ number := fun same => other (congrArg some same)
    rw [if_neg fun both => ne both.1]
  · rfl

theorem signal_apply_of_calm {event : Event} (calm : event.IsCalm number) :
    (service.apply event).signal = service.signal := by
  cases address : event.number? with
  | some other => exact (clock_apply address service).2
  | none =>
    cases event with
    | signalled => exact calm.elim
    | elapsed => rfl
    | _ => cases address

theorem session?_apply_of_other {event : Event} (other : event.number? ≠ some number) :
    (service.apply event).session? number = service.session? number := by
  cases address : event.number? with
  | some different =>
    rw [address] at other
    exact session?_apply_of_ne address (fun same => other (congrArg some same)) service
  | none =>
    cases event with
    | signalled signal =>
      change (service.heed signal).session? number = _
      unfold heed
      split
      · rfl
      · rfl
    | elapsed => rfl
    | _ => cases address

section Moves

variable {meddles : ω → ω → Prop}

theorem move_of_received (nothing : ∀ outside, meddles outside outside) (octets : Octets)
    (found : service.session? number = some session) :
    Session.Move (service.handler number) service.environment meddles
      (service.heardOf number (.received number octets)) none 0
      (service.outside, session) (service.outside, session.receive octets) := by
  have read : service.heardOf number (.received number octets) =
      if session.isReading then octets else [] := by
    simp [heardOf, found]
  rw [read]
  by_cases reads : session.isReading = true
  · rw [if_pos reads]
    by_cases empty : octets = []
    · have same : session.receive octets = session :=
        Session.receive_of_not_reading fun both => both.2 empty
      rw [same, empty]
      exact .still session (nothing _)
    · exact .hear _ empty reads
  · have same : session.receive octets = session :=
      Session.receive_of_not_reading fun both => reads both.1
    rw [if_neg reads, same]
    exact .still session (nothing _)

theorem move_of_stepped (nothing : ∀ outside, meddles outside outside)
    (quiet : service.signal = .quiet) (found : service.session? number = some session) :
    ∃ session', (service.apply (.stepped number)).session? number = some session' ∧
      Session.Move (service.handler number) service.environment meddles [] (service.turnOf? number
        (.stepped number)) 0 (service.outside, session)
        ((service.apply (.stepped number)).outside, session') := by
  have turn : service.turnOf? number (.stepped number) = session.turn? service.now := by
    simp [turnOf?, found]
  rw [turn]
  simp only [apply, step, found]
  cases steps : session.step (service.handler number) service.environment service.now
      service.signal service.outside with
  | none =>
    rw [quiet] at steps
    refine ⟨session, found, ?_⟩
    rw [Session.turn?_of_stuck steps]
    exact .still session (nothing _)
  | some next =>
    rw [quiet] at steps
    exact ⟨next.2, session?_put_self _ _ _, .step steps⟩

theorem move_of_woken (nothing : ∀ outside, meddles outside outside)
    (found : service.session? number = some session) :
    Session.Move (service.handler number) service.environment meddles [] none
      (service.wakesOf number (.woken number)) (service.outside, session)
      (service.outside, session.wake) := by
  have woken : service.wakesOf number (.woken number) = if session.isWaiting then 1 else 0 := by
    simp [wakesOf, found]
  rw [woken]
  by_cases waits : session.isWaiting = true
  · rw [if_pos waits]
    exact .wake _ waits
  · rw [if_neg waits, Session.wake_of_not_waiting waits]
    exact .still session (nothing _)

/-- What a calm event is to the session of the connection: one move. -/
theorem move_of_calm (nothing : ∀ outside, meddles outside outside)
    {event : Event} (calm : event.IsCalm number) (quiet : service.signal = .quiet)
    (others : event.number? ≠ some number → meddles service.outside (service.apply event).outside)
    (found : service.session? number = some session) :
    ∃ session', (service.apply event).session? number = some session' ∧
      Session.Move (service.handler number) service.environment meddles
        (service.heardOf number event) (service.turnOf? number event)
        (service.wakesOf number event) (service.outside, session)
        ((service.apply event).outside, session') := by
  by_cases address : event.number? = some number
  · cases event with
    | connected other =>
      cases address
      have same : service.apply (.connected number) = service := by
        simp only [apply, connect, found]
      rw [same]
      exact ⟨session, found, .still session (nothing _)⟩
    | received other octets =>
      cases address
      refine ⟨session.receive octets, by simp [apply, found], ?_⟩
      rw [apply, alter_of_some found]
      exact move_of_received nothing octets found
    | stepped other =>
      cases address
      exact move_of_stepped nothing quiet found
    | woken other =>
      cases address
      refine ⟨session.wake, by simp [apply, found], ?_⟩
      rw [apply, alter_of_some found]
      exact move_of_woken nothing found
    | hungUp | readFailed | transportFails | dropped =>
      cases address
      exact absurd rfl calm
    | signalled | elapsed => cases address
  · refine ⟨session, ?_, ?_⟩
    · rw [session?_apply_of_other address, found]
    · rw [heardOf_of_ne address, turnOf?_of_ne address, wakesOf_of_ne address]
      exact .still session (others address)

theorem run_of_moves_from (nothing : ∀ outside, meddles outside outside)
    {kept : Octets → List Turn → Nat → ω × Session σ → Prop}
    (keeps : ∀ {heard turns wakes octets turn woken state next}, kept heard turns wakes state →
      Session.Move (service.handler number) service.environment meddles octets turn woken state
        next → kept (heard ++ octets) (turns ++ turn.toList) (wakes + woken) next)
    {events : List Event} (calm : ∀ event ∈ events, event.IsCalm number)
    (others : ∀ before event after, events = before ++ event :: after →
      event.number? ≠ some number →
      meddles (service.run before).outside ((service.run before).apply event).outside)
    (quiet : service.signal = .quiet) (found : service.session? number = some session)
    {before : Octets} {earlier : List Turn} {wakes : Nat}
    (start : kept before earlier wakes (service.outside, session)) :
    (service.run events).signal = .quiet ∧
      ∃ session', (service.run events).session? number = some session' ∧
        kept (before ++ service.heard number events) (earlier ++ service.turns number events)
          (wakes + service.wakes number events) ((service.run events).outside, session') := by
  induction events generalizing service session before earlier wakes with
  | nil =>
    rw [heard, turns, Service.wakes, List.append_nil, List.append_nil, Nat.add_zero]
    exact ⟨quiet, session, found, start⟩
  | cons event rest ih =>
    obtain ⟨calmNow, calmLater⟩ := List.forall_mem_cons.1 calm
    obtain ⟨between, foundNext, moved⟩ :=
      move_of_calm nothing calmNow quiet (others [] event rest rfl) found
    rw [heard, turns, Service.wakes, run_cons, ← List.append_assoc, ← List.append_assoc,
      ← Nat.add_assoc]
    refine ih ?_ calmLater ?_ ?_ foundNext (keeps start moved)
    · intro heard turns wakes octets turn woken state next
      rw [handler_apply, environment_apply]
      exact keeps
    · rintro before other after rfl ne
      exact others (event :: before) other after rfl ne
    · rw [signal_apply_of_calm calmNow, quiet]

theorem run_of_moves (meddles : ω → ω → Prop) (nothing : ∀ outside, meddles outside outside)
    (kept : Octets → List Turn → Nat → ω × Session σ → Prop)
    (keeps : ∀ {heard turns wakes octets turn woken state next}, kept heard turns wakes state →
      Session.Move (service.handler number) service.environment meddles octets turn woken state
        next → kept (heard ++ octets) (turns ++ turn.toList) (wakes + woken) next)
    {events : List Event} (calm : ∀ event ∈ events, event.IsCalm number)
    (others : ∀ before event after, events = before ++ event :: after →
      event.number? ≠ some number →
      meddles (service.run before).outside ((service.run before).apply event).outside)
    (quiet : service.signal = .quiet) (found : service.session? number = some session)
    (start : kept [] [] 0 (service.outside, session)) :
    (service.run events).signal = .quiet ∧
      ∃ session', (service.run events).session? number = some session' ∧
        kept (service.heard number events) (service.turns number events)
          (service.wakes number events) ((service.run events).outside, session') := by
  have held := run_of_moves_from nothing keeps calm others quiet found start
  rwa [List.nil_append, List.nil_append, Nat.zero_add] at held

end Moves

section Progress

def Event.IsOwn (number : Nat) (event : Event) : Prop :=
  event = .stepped number ∨ event = .woken number

theorem Event.IsOwn.calm {event : Event} (own : event.IsOwn number) : event.IsCalm number := by
  rcases own with rfl | rfl
  · trivial
  · trivial

theorem heard_of_own {events : List Event} (own : ∀ event ∈ events, event.IsOwn number) :
    service.heard number events = [] := by
  induction events generalizing service with
  | nil => rfl
  | cons event rest ih =>
    obtain ⟨now, later⟩ := List.forall_mem_cons.1 own
    rw [heard, ih later]
    rcases now with rfl | rfl
    · rfl
    · rfl

/-- Left alone, a session goes on until its handler has ended and it has nothing more
to take up. -/
theorem exists_run_to_rest (service : Service ω σ) {session : Session σ}
    (found : service.session? number = some session) :
    ∃ events, (∀ event ∈ events, event.IsOwn number) ∧
      ∃ session', (service.run events).session? number = some session' ∧
        session'.isWaiting = false ∧
        session'.step ((service.run events).handler number) (service.run events).environment
          (service.run events).now (service.run events).signal (service.run events).outside = none := by
  by_cases waits : session.isWaiting = true
  · have awake : (service.apply (.woken number)).session? number = some session.wake := by
      simp [apply, found]
    obtain ⟨events, own, rests⟩ := exists_run_to_rest (service.apply (.woken number)) awake
    refine ⟨.woken number :: events, ?_, rests⟩
    exact List.forall_mem_cons.2 ⟨.inr rfl, own⟩
  · cases steps : session.step (service.handler number) service.environment service.now
        service.signal service.outside with
    | none => exact ⟨[], List.forall_mem_nil _, session, found, by simpa using waits, steps⟩
    | some next =>
      have stepped : (service.apply (.stepped number)).session? number = some next.2 := by
        rw [session?_stepped found, steps]
        rfl
      obtain ⟨events, own, rests⟩ := exists_run_to_rest (service.apply (.stepped number)) stepped
      refine ⟨.stepped number :: events, ?_, rests⟩
      exact List.forall_mem_cons.2 ⟨.inl rfl, own⟩
termination_by (session.weight, session.program)
decreasing_by
  · obtain ⟨same, follows⟩ := Session.wake_decreases waits
    rw [same]
    exact .right _ follows
  · rcases Session.step_decreases steps with less | ⟨same, follows⟩
    · exact .left _ _ less
    · rw [same]
      exact .right _ follows

end Progress

end Service

end LdapService

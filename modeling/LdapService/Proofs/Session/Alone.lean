import LdapService.Proofs.Session.Beside

/-!
A connection among others and the same connection alone. What the others do can
reach it only through the answers of the environment, and programs that are
alike hide which of the possible answers came. So the connection alone, with
handlers that are alike, goes through the same states; it only needs more or
fewer steps where its handler asks other questions.
-/

namespace LdapService

namespace Service

variable {ω ω' σ : Type} {served : Request → Prop} {here there : Contract backend} {good : ω → Prop}
  {good' : ω' → Prop} {number : Nat} {first : Service ω σ} {second : Service ω' σ}

/-- The second events are the first ones without those of other connections.
Each step of the connection may be any number of steps there. -/
inductive Alone (number : Nat) : List Event → List Event → Prop
  | nil : Alone number [] []
  | other {event : Event} {events alone : List Event} {other : Nat}
      (address : event.number? = some other) (ne : other ≠ number)
      (rest : Alone number events alone) : Alone number (event :: events) alone
  | step {events alone : List Event} (count : Nat) (rest : Alone number events alone) :
      Alone number (.stepped number :: events)
        (List.replicate count (.stepped number) ++ alone)
  | same {event : Event} {events alone : List Event}
      (concerns : event.number? = none ∨ event.number? = some number)
      (rest : Alone number events alone) : Alone number (event :: events) (event :: alone)

/-- Two services that the client of a connection cannot tell apart by the requests
that are served. Which of the sessions it is does not matter to the contracts, which
all of them meet. -/
structure InStep (served : Request → Prop) (here there : Contract backend) (good : ω → Prop)
    (good' : ω' → Prop) (number : Nat) (first : Service ω σ) (second : Service ω' σ) : Prop
    extends Beside (fun program other => program.Alike Streaming.Question.IsSeen
      here.toStreaming there.toStreaming other) number first second where
  keepsHere : here.KeptBy first.environment.answer good
  keepsThere : there.KeptBy second.environment.answer good'
  meetsHere : ∀ number request memory, ((first.handler number).perform request memory).Meets
    here.toStreaming fun _ _ => True
  meetsThere : ∀ number request memory, ((second.handler number).perform request memory).Meets
    there.toStreaming fun _ _ => True
  alike : ∀ request memory, served request → ((first.handler number).perform request memory).Alike
    Streaming.Question.IsSeen here.toStreaming there.toStreaming
      ((second.handler number).perform request memory)
  upheldHere : first.Upholds here good fun _ _ => True
  upheldThere : second.Upholds there good' fun _ _ => True

theorem InStep.run (h : InStep served here there good good' number first second)
    (events events' : List Event)
    (beside : Beside (fun program other => program.Alike Streaming.Question.IsSeen
      here.toStreaming there.toStreaming other) number (first.run events) (second.run events')) :
    InStep served here there good good' number (first.run events) (second.run events') where
  toBeside := beside
  keepsHere := by rw [environment_run]; exact h.keepsHere
  keepsThere := by rw [environment_run]; exact h.keepsThere
  meetsHere := by rw [handler_run]; exact h.meetsHere
  meetsThere := by rw [handler_run]; exact h.meetsThere
  alike := by rw [handler_run, handler_run]; exact h.alike
  upheldHere := h.upheldHere.run_free h.keepsHere h.meetsHere events
  upheldThere := h.upheldThere.run_free h.keepsThere h.meetsThere events'

theorem InStep.steps (h : InStep served here there good good' number first second)
    (count count' : Nat)
    (session : Option.Rel (Session.Alike here there)
      ((first.run (List.replicate count (.stepped number))).session? number)
      ((second.run (List.replicate count' (.stepped number))).session? number)) :
    InStep served here there good good' number (first.run (List.replicate count (.stepped number)))
      (second.run (List.replicate count' (.stepped number))) := by
  refine h.run _ _ (h.toBeside.runs _ _ ?_ session)
  intro event mem
  rcases List.mem_append.1 mem with mem | mem
  · rw [List.eq_of_mem_replicate mem]
    exact Option.some_ne_none number
  · rw [List.eq_of_mem_replicate mem]
    exact Option.some_ne_none number

theorem InStep.same (h : InStep served here there good good' number first second) {event : Event}
    (other : event ≠ .stepped number) :
    InStep served here there good good' number (first.apply event) (second.apply event) := by
  refine h.run [event] [event]
    (h.toBeside.same (fun steps => absurd steps other) fun one other alike found found' => ?_)
  rw [(h.upheldHere.sessions _ _ found).wake_eq, (h.upheldThere.sessions _ _ found').wake_eq]
  exact alike

/-- While the handler goes on, a step of the one session is some steps of the
other: none for a question that only the first asks, and as many more as the
second asks by itself. -/
theorem InStep.step_busy {program other : Program streaming σ (Except Failure Reply)}
    (alike : program.Alike Streaming.Question.IsSeen here.toStreaming there.toStreaming other)
    {second : Service ω' σ} (h : InStep served here there good good' number first second)
    {session : Session σ} {task : Task σ} (found : first.session? number = some session)
    (busy : session.phase = .busy task) (goes : task.program = program)
    (found' : second.session? number =
      some { session with phase := .busy { task with program := other } }) :
    ∃ count, InStep served here there good good' number (first.apply (.stepped number))
      (second.run (List.replicate count (.stepped number))) := by
  induction alike generalizing second with
  | done memory outcome =>
    refine ⟨1, h.steps 1 1 ?_⟩
    change Option.Rel _ ((first.apply (.stepped number)).session? number)
      ((second.apply (.stepped number)).session? number)
    rw [session?_stepped found, session?_stepped found', Session.step_of_done busy goes,
      Session.step_of_done rfl rfl]
    exact .some (.quiet (Session.settled_quiet rfl))
  | @both question next next' seen rest =>
    refine ⟨1, h.steps 1 1 ?_⟩
    change Option.Rel _ ((first.apply (.stepped number)).session? number)
      ((second.apply (.stepped number)).session? number)
    rw [session?_stepped found, session?_stepped found', Session.step_of_ask busy goes,
      Session.step_of_ask rfl rfl, h.now, Exchange.answer_seen first.environment
        second.environment first.now seen first.outside second.outside]
    exact .some (.busy rfl (rest _) rfl)
  | @first question next other hidden rest =>
    have meets := (h.upheldHere.sessions number session found).task task busy
    unfold Task.Upholds at meets
    rw [goes] at meets
    obtain ⟨possible, -, -⟩ := Exchange.answer_kept h.keepsHere first.now question
      ⟨first.outside, task.stream, session.connection⟩ meets.1 h.upheldHere.outside
    cases question with
    | send => exact absurd trivial hidden
    | isClosed => exact absurd trivial hidden
    | backend question =>
      refine ⟨0, h.steps 1 0 ?_⟩
      change Option.Rel _ ((first.apply (.stepped number)).session? number)
        (second.session? number)
      rw [session?_stepped found, Session.step_of_ask busy goes, found']
      exact .some (.busy rfl (rest _ possible) rfl)
  | @second question next other hidden rest ih =>
    have meets := (h.upheldThere.sessions number _ found').task _ rfl
    obtain ⟨possible, -, -⟩ := Exchange.answer_kept h.keepsThere second.now question
      ⟨second.outside, task.stream, session.connection⟩ meets.1 h.upheldThere.outside
    cases question with
    | send => exact absurd trivial hidden
    | isClosed => exact absurd trivial hidden
    | backend question =>
      have stepped := session?_stepped found'
      rw [Session.step_of_ask rfl rfl] at stepped
      have later : InStep served here there good good' number first
          (second.apply (.stepped number)) := by
        refine h.steps 0 1 ?_
        change Option.Rel _ (first.session? number)
          ((second.apply (.stepped number)).session? number)
        rw [found, stepped]
        exact .some (.busy busy (goes ▸ rest _ possible) rfl)
      obtain ⟨count, result⟩ := ih _ possible later goes stepped
      exact ⟨count + 1, result⟩

theorem InStep.step (h : InStep served here there good good' number first second)
    (takes : ∀ message, first.taken? (.stepped number) = some (number, message) →
      served message.request) :
    ∃ count, InStep served here there good good' number (first.apply (.stepped number))
      (second.run (List.replicate count (.stepped number))) := by
  have session := h.session
  generalize hereIs : first.session? number = one, thereIs : second.session? number = other
    at session
  cases session with
  | none =>
    refine ⟨0, h.steps 1 0 ?_⟩
    change Option.Rel _ ((first.step number).session? number) (second.session? number)
    simp only [Service.step, hereIs, thereIs]
    exact .none
  | @some session session' alike =>
    cases alike with
    | busy phase alike same =>
      subst same
      exact h.step_busy alike hereIs phase rfl thereIs
    | quiet quiet =>
      -- Both make the same step, or neither makes one.
      refine ⟨1, h.steps 1 1 ?_⟩
      change Option.Rel _ ((first.apply (.stepped number)).session? number)
        ((second.apply (.stepped number)).session? number)
      rw [session?_stepped hereIs, session?_stepped thereIs, h.now, h.signal]
      have performs (message : Message) (took : session.taken? first.signal = some message) :=
        h.alike message.request session.connection.memory (takes message (by
          simp [taken?, hereIs, took]))
      have made := Session.step_alike first.environment second.environment first.now
        first.outside second.outside quiet performs
      exact .some ((Session.AlikeUpTo.quiet quiet).of_steps made fun _ _ later => later.2)

theorem InStep.alone (h : InStep (fun _ => True) here there good good' number first second)
    (events : List Event) :
    ∃ alone, Alone number events alone ∧
      InStep (fun _ => True) here there good good' number (first.run events)
        (second.run alone) := by
  induction events generalizing first second with
  | nil => exact ⟨[], .nil, h⟩
  | cons event rest ih =>
    by_cases stepped : event = .stepped number
    · subst stepped
      obtain ⟨count, later⟩ := h.step fun _ _ => trivial
      obtain ⟨alone, matched, result⟩ := ih later
      refine ⟨_, .step count matched, ?_⟩
      rw [run_append]
      exact result
    · by_cases concerns : event.number? = none ∨ event.number? = some number
      · obtain ⟨alone, matched, result⟩ := ih (h.same stepped)
        exact ⟨_, .same concerns matched, result⟩
      · rw [not_or] at concerns
        obtain ⟨other, address⟩ := Option.ne_none_iff_exists'.1 concerns.1
        have ne : other ≠ number := fun same => concerns.2 (same ▸ address)
        have untouched := h.toBeside.others [event] [] (by
          simp [address, ne])
        obtain ⟨alone, matched, result⟩ := ih (h.run [event] [] untouched)
        exact ⟨_, .other address ne matched, result⟩

theorem InStep.looksLike (h : InStep served here there good good' number first second) :
    Option.Rel Session.LooksLike (first.session? number) (second.session? number) :=
  h.toBeside.looksLike

end Service

end LdapService

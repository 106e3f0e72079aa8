import LdapService.Proofs.Program.Likeness
import LdapService.Proofs.Session.Upholds

/-!
Sessions that differ at most in how the handler goes on with the operation
under way, and there in nothing that can be seen. Reading, hanging up and
waking keep them alike, and so does the look for a next message.
-/

namespace LdapService

theorem Exchange.answer_seen {ω ω' σ : Type} (environment : Environment ω)
    (environment' : Environment ω') (now : Nat) {question : Streaming.Question}
    (seen : question.IsSeen) (outside : ω) (outside' : ω') (stream : SearchStream)
    (connection : Connection σ) :
    answer environment' now question ⟨outside', stream, connection⟩ =
      let told := answer environment now question ⟨outside, stream, connection⟩
      (told.1, ⟨outside', told.2.stream, told.2.connection⟩) := by
  cases question with
  | backend => exact seen.elim
  | send entry => rfl
  | isClosed => rfl

theorem Connection.begin_other {σ : Type} (handler handler' : Handler σ) (now : Nat)
    (message : Message) (connection : Connection σ) :
    connection.begin handler' now message =
      ((connection.begin handler now message).1.map id fun task =>
          { task with program := handler'.perform message.request connection.memory },
        (connection.begin handler now message).2) := by
  unfold begin
  simp only
  split
  · split
    · rfl
    · rfl
  · rfl

namespace Session

variable {ω σ : Type}

def goingOn (program : Program streaming σ (Except Failure Reply)) (session : Session σ) :
    Session σ :=
  match session.phase with
  | .busy task => { session with phase := .busy { task with program } }
  | _ => session

/-- The same but for how the handler goes on. -/
def LooksLike (first second : Session σ) : Prop :=
  ∃ program, second = first.goingOn program

/-- The same, and if the handler goes on otherwise, then in a related way. -/
inductive AlikeUpTo (related : Program streaming σ (Except Failure Reply) →
    Program streaming σ (Except Failure Reply) → Prop) : Session σ → Session σ → Prop
  | quiet {session : Session σ} (quiet : ¬session.IsBusy) : AlikeUpTo related session session
  | busy {first second : Session σ} {task : Task σ}
      {other : Program streaming σ (Except Failure Reply)} (phase : first.phase = .busy task)
      (goes : related task.program other)
      (same : second = { first with phase := .busy { task with program := other } }) :
      AlikeUpTo related first second

abbrev Alike (here there : Contract backend) : Session σ → Session σ → Prop :=
  AlikeUpTo fun program other =>
    program.Alike Streaming.Question.IsSeen here.toStreaming there.toStreaming other

variable {related : Program streaming σ (Except Failure Reply) →
  Program streaming σ (Except Failure Reply) → Prop}

theorem AlikeUpTo.looksLike {first second : Session σ} (h : AlikeUpTo related first second) :
    first.LooksLike second := by
  cases h with
  | quiet quiet =>
    refine ⟨.crash first.connection.memory none, ?_⟩
    unfold goingOn
    split
    · next task busy => exact absurd ⟨task, busy⟩ quiet
    · rfl
  | @busy _ task other phase goes same =>
    refine ⟨other, ?_⟩
    unfold goingOn
    rw [same, phase]

theorem awaken_quiet {session : Session σ} (quiet : ¬session.IsBusy) :
    ¬session.awaken.IsBusy := by
  rintro ⟨task, busy⟩
  exact quiet ⟨task, phase_of_awaken busy⟩

theorem awaken_of_busy {session : Session σ} {task : Task σ} (busy : session.phase = .busy task) :
    session.awaken = session := by
  unfold awaken
  rw [busy]

theorem isReading_of_busy {session : Session σ} {task : Task σ}
    (busy : session.phase = .busy task) (other : Task σ) :
    ({ session with phase := .busy other } : Session σ).isReading = session.isReading := by
  unfold isReading
  rw [busy]

section Changes

variable {first second : Session σ}

theorem AlikeUpTo.change (h : AlikeUpTo related first second) (change : Session σ → Session σ)
    (apart : ∀ session phase, change { session with phase } = { change session with phase }) :
    AlikeUpTo related (change first) (change second) := by
  have kept (session : Session σ) : (change session).phase = session.phase := by
    have same : change session = { change session with phase := session.phase } :=
      apart session session.phase
    rw [same]
  cases h with
  | quiet quiet =>
    refine .quiet ?_
    rintro ⟨task, busy⟩
    exact quiet ⟨task, kept first ▸ busy⟩
  | busy phase goes same =>
    refine .busy ((kept first).trans phase) goes ?_
    rw [same, apart first (.busy _)]

theorem AlikeUpTo.read (h : AlikeUpTo related first second) (change : Session σ → Session σ)
    (apart : ∀ session phase, change { session with phase } = { change session with phase })
    (test : Bool → Bool) :
    AlikeUpTo related (if test first.isReading then (change first).awaken else first)
      (if test second.isReading then (change second).awaken else second) := by
  have changed := h.change change apart
  generalize change first = first', change second = second' at changed
  have reading : second.isReading = first.isReading := by
    cases h with
    | quiet => rfl
    | busy phase goes same => rw [same, isReading_of_busy phase]
  rw [reading]
  split
  · cases changed with
    | quiet quiet => exact .quiet (awaken_quiet quiet)
    | busy phase goes same =>
      subst same
      rw [awaken_of_busy phase]
      exact .busy phase goes rfl
  · exact h

theorem AlikeUpTo.receive (h : AlikeUpTo related first second) (octets : Octets) :
    AlikeUpTo related (first.receive octets) (second.receive octets) :=
  h.read (fun session => { session with buffer := session.buffer ++ octets })
    (fun _ _ => rfl) (· && octets ≠ [])

theorem AlikeUpTo.hangUp (h : AlikeUpTo related first second) :
    AlikeUpTo related first.hangUp second.hangUp :=
  h.read markPeerGone (fun _ _ => rfl) id

theorem AlikeUpTo.readFailed (h : AlikeUpTo related first second) (error : IoError) :
    AlikeUpTo related (first.readFailed error) (second.readFailed error) :=
  h.read (fun session => { session.markPeerGone with
      readError := if error.isHangUp then session.readError else some error })
    (fun _ _ => rfl) id

theorem AlikeUpTo.failTransport (h : AlikeUpTo related first second)
    (operation : Transport.Operation) (error : IoError) :
    AlikeUpTo related (first.failTransport operation error)
      (second.failTransport operation error) :=
  h.change _ fun _ _ => rfl

theorem AlikeUpTo.drop (h : AlikeUpTo related first second) :
    AlikeUpTo related first.drop second.drop := by
  cases h with
  | quiet => exact .quiet first.drop_quiet
  | busy phase goes same =>
    have dropped : second.drop = first.drop := by
      unfold Session.drop
      rw [same, phase]
    rw [dropped]
    exact .quiet first.drop_quiet

end Changes

theorem takeMessage_alike {handler handler' : Handler σ} (now : Nat) {frame : Octets}
    {session : Session σ}
    (performs : ∀ message, Message.decode frame = .ok message →
      related (handler.perform message.request session.connection.memory)
        (handler'.perform message.request session.connection.memory)) :
    AlikeUpTo related (session.takeMessage handler now frame)
      (session.takeMessage handler' now frame) := by
  unfold takeMessage
  simp only
  split
  · exact .quiet (reject_quiet _ _)
  · next message decoded =>
    rw [Connection.begin_other handler handler']
    have begun := @Connection.begin_program _ handler now message
      { session.connection with stage := .decoding }
    generalize Connection.begin handler now message
      { session.connection with stage := .decoding } = started at begun
    obtain ⟨flow | task, connection⟩ := started
    · exact .quiet (settled_quiet rfl)
    · refine .busy rfl ?_ rfl
      rw [begun rfl]
      exact performs message decoded

theorem next_alike {handler handler' : Handler σ} (now : Nat) {signal : Signal}
    {session : Session σ} (ready : session.phase = .ready)
    (performs : ∀ message, session.taken? signal = some message →
      related (handler.perform message.request session.connection.memory)
        (handler'.perform message.request session.connection.memory)) :
    AlikeUpTo related (session.next handler now signal) (session.next handler' now signal) := by
  unfold next
  split
  · exact .quiet (finish_quiet _ _)
  · next present =>
    split
    · exact .quiet (finish_quiet _ _)
    · next serving =>
      split
      · exact .quiet (reject_quiet _ _)
      · exact .quiet fun ⟨task, busy⟩ => nomatch busy
      · next frame rest cut =>
        refine takeMessage_alike now fun message decoded => performs message ?_
        simp [taken?, ready, present, serving, cut, decoded, Except.toOption]

/-- Between operations two handlers make the same step, or neither makes one. -/
theorem step_alike {ω' : Type} {handler handler' : Handler σ} (environment : Environment ω)
    (environment' : Environment ω') (now : Nat) {signal : Signal} (outside : ω) (outside' : ω')
    {session : Session σ} (quiet : ¬session.IsBusy)
    (performs : ∀ message, session.taken? signal = some message →
      related (handler.perform message.request session.connection.memory)
        (handler'.perform message.request session.connection.memory)) :
    Option.Rel (fun one other => (one.1 = outside ∧ other.1 = outside') ∧
        AlikeUpTo related one.2 other.2)
      (session.step handler environment now signal outside)
      (session.step handler' environment' now signal outside') := by
  unfold step
  cases phase : session.phase with
  | ready => exact .some ⟨⟨rfl, rfl⟩, next_alike now phase performs⟩
  | idle =>
    by_cases still : signal = .quiet
    · simp only [still, if_true]
      exact .none
    · simp only [still, if_false]
      exact .some ⟨⟨rfl, rfl⟩, .quiet (finish_quiet _ _)⟩
  | busy task => exact absurd ⟨task, phase⟩ quiet
  | settled flow => exact .some ⟨⟨rfl, rfl⟩, .quiet (follow_quiet flow session)⟩
  | ended => exact .none
  | dropped => exact .none

theorem AlikeUpTo.of_steps {ω' : Type} {first second : Session σ}
    (h : AlikeUpTo related first second) {after : ω × Session σ → ω' × Session σ → Prop}
    {made : Option (ω × Session σ)} {made' : Option (ω' × Session σ)}
    (steps : Option.Rel after made made')
    (later : ∀ one other, after one other → AlikeUpTo related one.2 other.2) :
    AlikeUpTo related (made.elim first (·.2)) (made'.elim second (·.2)) := by
  cases steps with
  | none => exact h
  | some made => exact later _ _ made

end Session

end LdapService

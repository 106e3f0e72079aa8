import LdapService.Proofs.Program.Contract

/-!
Programs that differ in failures inside the service only. Two programs correspond when
they ask the same, go on correspondingly from answers that are the same or both tell of
a failure, and end correspondingly; two crashes correspond whatever they say. A program
hushes failures when it makes nothing of what they say: each ends it with an answer that
tells nothing, or is taken for an answer that is none.
-/

namespace LdapService

/-- Which answers tell of a failure inside the service, and for which answer such a
failure is taken; `none` where it ends the program. -/
structure Lapse (I : Interface) where
  failed : (question : I.Question) → I.Answer question → Prop
  usual? : (question : I.Question) → Option (I.Answer question)

def Lapse.Same {I : Interface} (lapse : Lapse I) (question : I.Question)
    (answer answer' : I.Answer question) : Prop :=
  answer = answer' ∨ lapse.failed question answer ∧ lapse.failed question answer'

/-- Failures of the store. Whoever asks for a password goes on as if there were none. -/
def Backend.lapse : Lapse backend where
  failed
    | .listEntries, answer => ∃ error, answer = .error error
    | .getEntry _, answer => ∃ error, answer = .error error
    | .verifyPassword _ _, answer => ∃ error, answer = .error error
    | .password _, answer => ∃ error, answer = .error error
    | .recall _ _, _ | .remember _ _, _ | .forget _, _ => False
  usual?
    | .password _ => some (.ok none)
    | _ => none

def Lapse.toStreaming (lapse : Lapse backend) : Lapse streaming where
  failed
    | .backend question, answer => lapse.failed question answer
    | .send _, _ | .isClosed, _ => False
  usual?
    | .backend question => lapse.usual? question
    | .send _ | .isClosed => none

def Streaming.lapse : Lapse streaming := Backend.lapse.toStreaming

namespace Program

variable {I : Interface} {σ α β γ δ : Type} {lapse : Lapse I}

inductive Corresponds (lapse : Lapse I) (ends : α → β → Prop) :
    Program I σ α → Program I σ β → Prop
  | done (memory : σ) {value : α} {value' : β} (same : ends value value') :
      Corresponds lapse ends (.done memory value) (.done memory value')
  | crash (memory : σ) (reason reason' : Option String) :
      Corresponds lapse ends (.crash memory reason) (.crash memory reason')
  | wait {next : Program I σ α} {next' : Program I σ β} (rest : Corresponds lapse ends next next') :
      Corresponds lapse ends (.wait next) (.wait next')
  | ask {question : I.Question} {next : I.Answer question → Program I σ α}
      {next' : I.Answer question → Program I σ β}
      (rest : ∀ answer answer', lapse.Same question answer answer' →
        Corresponds lapse ends (next answer) (next' answer')) :
      Corresponds lapse ends (.ask question next) (.ask question next')

theorem Corresponds.andThen {ends : α → β → Prop} {ends' : γ → δ → Prop}
    {program : Program I σ α} {other : Program I σ β} {next : σ → α → Program I σ γ}
    {next' : σ → β → Program I σ δ} (h : program.Corresponds lapse ends other)
    (rest : ∀ memory value value', ends value value' →
      (next memory value).Corresponds lapse ends' (next' memory value')) :
    (program.andThen next).Corresponds lapse ends' (other.andThen next') := by
  induction h with
  | done memory same => exact rest memory _ _ same
  | crash memory reason reason' => exact .crash memory reason reason'
  | wait _ ih => exact .wait ih
  | ask _ ih => exact .ask ih

/-- What is made of a failure that answers a question. -/
structure HushesAt (lapse : Lapse I) (question : I.Question)
    (next : I.Answer question → Program I σ (Except Failure α)) : Prop where
  same : ∀ {answer answer'}, lapse.failed question answer → lapse.failed question answer' →
    next answer = next answer'
  ends : ∀ {answer}, lapse.failed question answer → lapse.usual? question = none →
    ∃ memory, next answer = .done memory (.error .serverError)
  goesOn : ∀ {answer usual}, lapse.failed question answer → lapse.usual? question = some usual →
    next answer = next usual

def Hushes (lapse : Lapse I) : Program I σ (Except Failure α) → Prop
  | done _ _ | crash _ _ => True
  | wait next => Hushes lapse next
  | ask question next => HushesAt lapse question next ∧ ∀ answer, Hushes lapse (next answer)

variable {program : Program I σ (Except Failure α)} {question : I.Question}
  {next : I.Answer question → Program I σ (Except Failure α)}

theorem hushes_ask : (ask question next).Hushes lapse ↔
    HushesAt lapse question next ∧ ∀ answer, (next answer).Hushes lapse := Iff.rfl

theorem HushesAt.of_sure (sure : ∀ answer, ¬lapse.failed question answer) :
    HushesAt lapse question next where
  same failed := absurd failed (sure _)
  ends failed := absurd failed (sure _)
  goesOn failed := absurd failed (sure _)

theorem HushesAt.of_vital (vital : lapse.usual? question = none) (memory : σ)
    (lost : ∀ answer, lapse.failed question answer →
      next answer = .done memory (.error .serverError)) : HushesAt lapse question next where
  same failed failed' := by rw [lost _ failed, lost _ failed']
  ends failed _ := ⟨memory, lost _ failed⟩
  goesOn _ spare := by
    rw [vital] at spare
    cases spare

theorem HushesAt.of_spare {usual : I.Answer question} (spare : lapse.usual? question = some usual)
    (taken : ∀ answer, lapse.failed question answer → next answer = next usual) :
    HushesAt lapse question next where
  same failed failed' := by rw [taken _ failed, taken _ failed']
  ends _ vital := by
    rw [spare] at vital
    cases vital
  goesOn failed other := by
    rw [spare] at other
    cases other
    exact taken _ failed

theorem Hushes.andThen {more : σ → Except Failure α → Program I σ (Except Failure β)}
    (h : program.Hushes lapse) (rest : ∀ memory outcome, (more memory outcome).Hushes lapse)
    (passes : ∀ memory failure, more memory (.error failure) = .done memory (.error failure)) :
    (program.andThen more).Hushes lapse := by
  induction program with
  | done memory outcome => exact rest memory outcome
  | crash => trivial
  | wait next ih => exact ih h
  | ask question next ih =>
    obtain ⟨hushed, later⟩ := h
    refine ⟨⟨?_, ?_, ?_⟩, fun answer => ih answer (later answer)⟩
    · exact fun failed failed' => congrArg (Program.andThen more) (hushed.same failed failed')
    · intro answer failed vital
      obtain ⟨memory, ended⟩ := hushed.ends failed vital
      exact ⟨memory, (congrArg (Program.andThen more) ended).trans (passes memory _)⟩
    · exact fun failed spare => congrArg (Program.andThen more) (hushed.goesOn failed spare)

theorem Hushes.map {operation : Operation I σ α} {memory : σ} (change : α → β)
    (h : (operation memory).Hushes lapse) : ((change <$> operation) memory).Hushes lapse := by
  rw [Operation.map_apply]
  exact h.andThen (fun _ _ => trivial) fun _ _ => rfl

theorem Hushes.toStreaming {lapse : Lapse backend} {operation : Operation backend σ α} {memory : σ}
    (h : (operation memory).Hushes lapse) :
    (operation.toStreaming memory).Hushes lapse.toStreaming := by
  unfold Operation.toStreaming
  generalize operation memory = program at h
  induction program with
  | done => trivial
  | crash => trivial
  | wait next ih => exact ih h
  | ask question next ih =>
    obtain ⟨hushed, later⟩ := h
    refine ⟨⟨?_, ?_, ?_⟩, fun answer => ih answer (later answer)⟩
    · exact fun failed failed' => congrArg (mapQuestions _ _) (hushed.same failed failed')
    · intro answer failed vital
      obtain ⟨memory, ended⟩ := hushed.ends failed vital
      exact ⟨memory, congrArg (mapQuestions _ _) ended⟩
    · exact fun failed spare => congrArg (mapQuestions _ _) (hushed.goesOn failed spare)

/-- Whatever failures say makes no difference to a program that hushes them. -/
theorem Hushes.corresponds (h : program.Hushes lapse) : program.Corresponds lapse Eq program := by
  induction program with
  | done memory outcome => exact .done memory rfl
  | crash memory reason => exact .crash memory reason reason
  | wait next ih => exact .wait (ih h)
  | ask question next ih =>
    obtain ⟨hushed, later⟩ := h
    refine .ask fun answer answer' same => ?_
    rcases same with rfl | ⟨failed, failed'⟩
    · exact ih answer (later answer)
    · rw [hushed.same failed failed']
      exact ih answer' (later answer')

end Program

end LdapService

import LdapService.Handler.Operation

/-!
Contracts between a program and whoever answers it. A contract says which
questions may be asked and which answers have to be expected. A program that
meets one comes to its end by itself: it neither crashes nor waits.
-/

namespace LdapService

structure Contract (I : Interface) where
  allowed : I.Question → Prop
  possible : (question : I.Question) → I.Answer question → Prop

namespace Contract

def free (I : Interface) : Contract I := ⟨fun _ => True, fun _ _ => True⟩

/-- What a search owes is what it owes to the directory and the cache. -/
def toStreaming (contract : Contract backend) : Contract streaming where
  allowed
    | .backend question => contract.allowed question
    | .send _ | .isClosed => True
  possible
    | .backend question, answer => contract.possible question answer
    | .send _, _ | .isClosed, _ => True

/-- Whoever answers from a state keeps the contract as long as the state is good. -/
def KeptBy {I : Interface} {μ : Type} (contract : Contract I)
    (answer : (question : I.Question) → μ → I.Answer question × μ) (good : μ → Prop) : Prop :=
  ∀ question state, contract.allowed question → good state →
    contract.possible question (answer question state).1 ∧ good (answer question state).2

theorem keptBy_free {I : Interface} {μ : Type}
    (answer : (question : I.Question) → μ → I.Answer question × μ) :
    (free I).KeptBy answer fun _ => True := by
  intro question state _ _
  exact ⟨trivial, trivial⟩

end Contract

namespace Operation

variable {I : Interface} {σ α β : Type}

theorem bind_apply (first : Operation I σ α) (next : α → Operation I σ β) (memory : σ) :
    (first >>= next) memory = (first memory).andThen fun memory outcome =>
      match outcome with
      | .ok value => next value memory
      | .error failure => .done memory (.error failure) := rfl

theorem pure_apply (value : α) (memory : σ) :
    (pure value : Operation I σ α) memory = .done memory (.ok value) := rfl

theorem map_apply (change : α → β) (operation : Operation I σ α) (memory : σ) :
    (change <$> operation) memory = (operation memory).andThen fun memory outcome =>
      .done memory (outcome.map change) := by
  change (operation >>= pure ∘ change) memory = _
  rw [bind_apply]
  congr 1
  funext memory outcome
  cases outcome <;> rfl

theorem set_apply (memory memory' : σ) :
    (set memory : Operation I σ PUnit) memory' = .done memory (.ok ()) := rfl

theorem ofExcept_apply (outcome : Except Failure α) (memory : σ) :
    (ofExcept outcome : Operation I σ α) memory = .done memory outcome := rfl

end Operation

namespace Program

variable {I : Interface} {σ α β : Type}

@[simp] theorem andThen_done (next : σ → α → Program I σ β) (memory : σ) (value : α) :
    andThen next (.done memory value) = next memory value := rfl

@[simp] theorem andThen_ask (next : σ → α → Program I σ β) (question : I.Question)
    (rest : I.Answer question → Program I σ α) :
    andThen next (.ask question rest) = .ask question fun answer => andThen next (rest answer) :=
  rfl

theorem andThen_assoc {γ : Type} (next : σ → α → Program I σ β) (last : σ → β → Program I σ γ)
    (program : Program I σ α) :
    andThen last (andThen next program) =
      andThen (fun memory value => andThen last (next memory value)) program := by
  induction program with
  | done => rfl
  | crash => rfl
  | wait rest ih => exact congrArg Program.wait ih
  | ask question rest ih => exact congrArg (Program.ask question) (funext ih)

/-- Under the contract the program ends, and it ends as the goal says. -/
def Meets (contract : Contract I) (goal : σ → α → Prop) : Program I σ α → Prop
  | done memory value => goal memory value
  | crash _ _ => False
  | wait _ => False
  | ask question next => contract.allowed question ∧
      ∀ answer, contract.possible question answer → Meets contract goal (next answer)

variable {contract : Contract I} {goal : σ → α → Prop} {goal' : σ → β → Prop}
  {program : Program I σ α}

theorem meets_ask {question : I.Question} {next : I.Answer question → Program I σ α} :
    (ask question next).Meets contract goal ↔ contract.allowed question ∧
      ∀ answer, contract.possible question answer → (next answer).Meets contract goal := Iff.rfl

theorem Meets.mono {weaker : σ → α → Prop} (h : program.Meets contract goal)
    (implied : ∀ memory value, goal memory value → weaker memory value) :
    program.Meets contract weaker := by
  induction program with
  | done memory value => exact implied memory value h
  | crash => exact h
  | wait => exact h
  | ask question next ih =>
    obtain ⟨allowed, continued⟩ := h
    exact ⟨allowed, fun answer possible => ih answer (continued answer possible)⟩

theorem Meets.andThen {next : σ → α → Program I σ β} (h : program.Meets contract goal)
    (rest : ∀ memory value, goal memory value → (next memory value).Meets contract goal') :
    (program.andThen next).Meets contract goal' := by
  induction program with
  | done memory value => exact rest memory value h
  | crash => exact h
  | wait => exact h
  | ask question more ih =>
    obtain ⟨allowed, continued⟩ := h
    exact ⟨allowed, fun answer possible => ih answer (continued answer possible)⟩

theorem Meets.map {operation : Operation I σ α} {memory : σ} {kept : σ → Prop} (change : α → β)
    (h : (operation memory).Meets contract fun after _ => kept after) :
    ((change <$> operation) memory).Meets contract fun after _ => kept after := by
  rw [Operation.map_apply]
  exact h.andThen fun _ _ kept => kept

theorem Meets.toStreaming {contract : Contract backend} {goal : σ → Except Failure α → Prop}
    {operation : Operation backend σ α} {memory : σ}
    (h : (operation memory).Meets contract goal) :
    (operation.toStreaming memory).Meets contract.toStreaming goal := by
  unfold Operation.toStreaming
  generalize operation memory = program at h
  induction program with
  | done => exact h
  | crash => exact h
  | wait => exact h
  | ask question next ih =>
    obtain ⟨allowed, continued⟩ := h
    exact ⟨allowed, fun answer possible => ih answer (continued answer possible)⟩

/-- A run against whoever keeps the contract ends as the goal says and leaves
a good state behind. -/
theorem Meets.run {μ : Type} {answer : (question : I.Question) → μ → I.Answer question × μ}
    {good : μ → Prop} (h : program.Meets contract goal) (kept : contract.KeptBy answer good)
    (state : μ) (start : good state) :
    ∃ memory value finish, program.run answer state = (.done memory value, finish) ∧
      goal memory value ∧ good finish := by
  induction program generalizing state with
  | done memory value => exact ⟨memory, value, state, rfl, h, start⟩
  | crash => exact h.elim
  | wait => exact h.elim
  | ask question next ih =>
    obtain ⟨allowed, continued⟩ := h
    obtain ⟨possible, good'⟩ := kept question state allowed start
    exact ih _ (continued _ possible) _ good'

end Program

end LdapService

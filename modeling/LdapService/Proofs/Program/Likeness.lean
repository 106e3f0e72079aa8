import LdapService.Proofs.Program.Contract

/-!
Two programs that nobody can tell apart. Some questions are seen from outside
and some are not. Two programs are alike when they ask the same questions that
are seen, go on alike from every answer, and end alike; what is not seen each
asks in its own way, and each gets the answers of its own side.
-/

namespace LdapService

def Streaming.Question.IsSeen : Streaming.Question → Prop
  | .backend _ => False
  | .send _ | .isClosed => True

namespace Program

variable {I : Interface} {σ α β : Type}

/-- Likeness, with a contract for each side: which answers it may get to what
is not seen. -/
inductive Alike (seen : I.Question → Prop) (here there : Contract I) :
    Program I σ α → Program I σ α → Prop
  | done (memory : σ) (value : α) : Alike seen here there (.done memory value) (.done memory value)
  | both {question : I.Question} {next next' : I.Answer question → Program I σ α}
      (visible : seen question)
      (rest : ∀ answer, Alike seen here there (next answer) (next' answer)) :
      Alike seen here there (.ask question next) (.ask question next')
  | first {question : I.Question} {next : I.Answer question → Program I σ α}
      {other : Program I σ α} (hidden : ¬seen question)
      (rest : ∀ answer, here.possible question answer → Alike seen here there (next answer) other) :
      Alike seen here there (.ask question next) other
  | second {question : I.Question} {next : I.Answer question → Program I σ α}
      {other : Program I σ α} (hidden : ¬seen question)
      (rest : ∀ answer, there.possible question answer →
        Alike seen here there other (next answer)) :
      Alike seen here there other (.ask question next)

theorem Alike.hidden {seen : I.Question → Prop} {here there : Contract I} {question : I.Question}
    {next next' : I.Answer question → Program I σ α} (hidden : ¬seen question)
    (rest : ∀ answer answer', here.possible question answer → there.possible question answer' →
      Alike seen here there (next answer) (next' answer')) :
    Alike seen here there (.ask question next) (.ask question next') := by
  refine .first hidden fun answer told => ?_
  exact .second hidden fun answer' told' => rest answer answer' told told'

/-- Where nothing is seen, it is enough that both end in the same. -/
theorem Alike.of_meets {here there : Contract I} {memory : σ} {value : α}
    {program other : Program I σ α}
    (h : program.Meets here fun after outcome => after = memory ∧ outcome = value)
    (h' : other.Meets there fun after outcome => after = memory ∧ outcome = value) :
    Alike (fun _ => False) here there program other := by
  induction program with
  | done after outcome =>
    obtain ⟨rfl, rfl⟩ := h
    induction other with
    | done after' outcome' =>
      obtain ⟨rfl, rfl⟩ := h'
      exact .done _ _
    | crash => exact h'.elim
    | wait => exact h'.elim
    | ask question next ih => exact .second id fun answer told => ih answer (h'.2 answer told)
  | crash => exact h.elim
  | wait => exact h.elim
  | ask question next ih => exact .first id fun answer told => ih answer (h.2 answer told)

theorem Alike.andThen {seen : I.Question → Prop} {here there : Contract I}
    {program other : Program I σ α} {next next' : σ → α → Program I σ β}
    (h : Alike seen here there program other)
    (rest : ∀ memory value, Alike seen here there (next memory value) (next' memory value)) :
    Alike seen here there (program.andThen next) (other.andThen next') := by
  induction h with
  | done memory value => exact rest memory value
  | both visible _ ih => exact .both visible ih
  | first hidden _ ih => exact .first hidden ih
  | second hidden _ ih => exact .second hidden ih

theorem Alike.map {seen : I.Question → Prop} {here there : Contract I} {memory memory' : σ}
    {operation operation' : Operation I σ α} (change : α → β)
    (h : Alike seen here there (operation memory) (operation' memory')) :
    Alike seen here there ((change <$> operation) memory) ((change <$> operation') memory') := by
  rw [Operation.map_apply, Operation.map_apply]
  exact h.andThen fun memory outcome => .done _ _

theorem Alike.toStreaming {here there : Contract backend} {memory memory' : σ}
    {operation operation' : Operation backend σ α}
    (h : Alike (fun _ => False) here there (operation memory) (operation' memory')) :
    Alike Streaming.Question.IsSeen here.toStreaming there.toStreaming
      (operation.toStreaming memory) (operation'.toStreaming memory') := by
  unfold Operation.toStreaming
  generalize operation memory = program at h
  generalize operation' memory' = other at h
  induction h with
  | done memory value => exact .done memory value
  | both visible => exact visible.elim
  | first _ _ ih => exact .first id ih
  | second _ _ ih => exact .second id ih

end Program

end LdapService

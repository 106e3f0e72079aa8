/-!
Computations that ask. A program says what it wants to know next and how it
goes on from each answer, so that whoever runs it may let other work happen in
between. It ends with a value or it crashes; both leave a memory behind. It is
well-founded: a computation that asks or waits without end is not a program.
-/

namespace LdapService

structure Interface where
  Question : Type
  Answer : Question → Type

inductive Program (I : Interface) (σ α : Type) where
  | done (memory : σ) (value : α)
  | crash (memory : σ) (reason : Option String)
  /-- Goes on when something outside the service lets it. -/
  | wait (next : Program I σ α)
  | ask (question : I.Question) (next : I.Answer question → Program I σ α)

namespace Program

variable {I : Interface} {σ α β : Type}

def andThen (next : σ → α → Program I σ β) : Program I σ α → Program I σ β
  | done memory value => next memory value
  | crash memory reason => crash memory reason
  | wait rest => wait (andThen next rest)
  | ask question rest => ask question fun answer => andThen next (rest answer)

def mapQuestions {J : Interface} (question : I.Question → J.Question)
    (answer : (q : I.Question) → J.Answer (question q) → I.Answer q) :
    Program I σ α → Program J σ α
  | done memory value => done memory value
  | crash memory reason => crash memory reason
  | wait rest => wait (mapQuestions question answer rest)
  | ask q rest => ask (question q) fun a => mapQuestions question answer (rest (answer q a))

inductive Follows : Program I σ α → Program I σ α → Prop where
  | wait (next : Program I σ α) : Follows next (.wait next)
  | ask (question : I.Question) (next : I.Answer question → Program I σ α)
      (answer : I.Answer question) : Follows (next answer) (.ask question next)

theorem follows_acc (program : Program I σ α) : Acc Follows program := by
  induction program with
  | done => exact ⟨_, fun _ step => nomatch step⟩
  | crash => exact ⟨_, fun _ step => nomatch step⟩
  | wait next ih => exact ⟨_, fun _ step => by cases step; exact ih⟩
  | ask question next ih => exact ⟨_, fun _ step => by cases step; exact ih _⟩

instance : WellFoundedRelation (Program I σ α) := ⟨Follows, ⟨follows_acc⟩⟩

inductive Stop (I : Interface) (σ α : Type) where
  | done (memory : σ) (value : α)
  | crash (memory : σ)
  | waiting (next : Program I σ α)

def run {μ : Type} (answer : (q : I.Question) → μ → I.Answer q × μ) :
    Program I σ α → μ → Stop I σ α × μ
  | done memory value, state => (.done memory value, state)
  | crash memory _, state => (.crash memory, state)
  | wait next, state => (.waiting next, state)
  | ask question next, state =>
      let reply := answer question state
      run answer (next reply.1) reply.2

end Program

end LdapService

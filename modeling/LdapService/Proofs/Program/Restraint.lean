import LdapService.Handler.Basic
import LdapService.Proofs.Program.Contract

/-!
What a program can do at all, in whatever way it is answered: which questions it may
ask, and with which values it may end. Unlike under a contract it may wait and crash.
So a request other than a search sends no entries, and only an extended one is
answered with a name and a value, whatever its handler does.
-/

namespace LdapService

namespace Program

variable {I : Interface} {σ α β : Type} {asks : I.Question → Prop} {ends : α → Prop}

def IsRestrained (asks : I.Question → Prop) (ends : α → Prop) : Program I σ α → Prop
  | done _ value => ends value
  | crash _ _ => True
  | wait next => IsRestrained asks ends next
  | ask question next => asks question ∧ ∀ answer, IsRestrained asks ends (next answer)

theorem isRestrained_of_all {program : Program I σ α} (all : ∀ question, asks question) :
    program.IsRestrained asks fun _ => True := by
  induction program with
  | done => trivial
  | crash => trivial
  | wait next ih => exact ih
  | ask question next ih => exact ⟨all question, ih⟩

theorem IsRestrained.andThen {program : Program I σ α} {next : σ → α → Program I σ β}
    {ends' : β → Prop} (h : program.IsRestrained asks ends)
    (rest : ∀ memory value, ends value → (next memory value).IsRestrained asks ends') :
    (program.andThen next).IsRestrained asks ends' := by
  induction program with
  | done memory value => exact rest memory value h
  | crash => trivial
  | wait next ih => exact ih h
  | ask question next ih =>
    obtain ⟨allowed, continued⟩ := h
    exact ⟨allowed, fun answer => ih answer (continued answer)⟩

theorem isRestrained_map {operation : Operation I σ α} {memory : σ} {change : α → β}
    {ends' : Except Failure β → Prop} (all : (operation memory).IsRestrained asks fun _ => True)
    (final : ∀ outcome : Except Failure α, ends' (outcome.map change)) :
    ((change <$> operation) memory).IsRestrained asks ends' := by
  rw [Operation.map_apply]
  exact all.andThen fun _ outcome _ => final outcome

end Program

theorem Operation.isRestrained_toStreaming {σ α : Type} {asks : Streaming.Question → Prop}
    (backends : ∀ question, asks (.backend question)) (operation : Operation backend σ α)
    (memory : σ) : (operation.toStreaming memory).IsRestrained asks fun _ => True := by
  unfold Operation.toStreaming
  induction operation memory with
  | done => trivial
  | crash => trivial
  | wait next ih => exact ih
  | ask question next ih => exact ⟨backends question, ih⟩

namespace Request

def MayAsk (request : Request) (question : Streaming.Question) : Prop :=
  request.kind = .search ∨ ∃ inner, question = .backend inner

def MayEnd (request : Request) (outcome : Except Failure Reply) : Prop :=
  request.kind = .extended ∨ ∀ response, outcome ≠ .ok (.extended response)

theorem mayAsk_backend (request : Request) (question : Backend.Question) :
    request.MayAsk (.backend question) := .inr ⟨question, rfl⟩

theorem mayEnd_code {α : Type} (request : Request) (code : α → ResultCode)
    (outcome : Except Failure α) : request.MayEnd (outcome.map fun value => .code (code value)) := by
  refine .inr fun response => ?_
  cases outcome with
  | ok => simp [Except.map]
  | error => simp [Except.map]

end Request

theorem Handler.perform_isRestrained {σ : Type} (handler : Handler σ) (request : Request)
    (memory : σ) :
    (handler.perform request memory).IsRestrained request.MayAsk request.MayEnd := by
  have quiet {α : Type} (operation : Operation backend σ α) :
      (operation.toStreaming memory).IsRestrained request.MayAsk fun _ => True :=
    operation.isRestrained_toStreaming request.mayAsk_backend memory
  cases request with
  | search request =>
    refine Program.isRestrained_map ?_ (Request.mayEnd_code _ _)
    exact Program.isRestrained_of_all fun _ => .inl rfl
  | extended request => exact Program.isRestrained_map (quiet _) fun _ => .inl rfl
  | unbind | abandon => exact .inr (by simp)
  | compare request => exact Program.isRestrained_map (quiet _) (Request.mayEnd_code _ _)
  | bind | modify | add | delete | modifyDn =>
    exact Program.isRestrained_map (quiet _) (Request.mayEnd_code _ _)

end LdapService

import LdapService.Handler.Basic
import LdapService.Message.Kind
import LdapService.Proofs.Program.Contract

/-!
A handler that notes its calls. Beside its own memory it has a list, to which each of its
methods adds what it was called with, whether it then ends by itself or crashes; apart from
that it is the handler that it was. Of a request it comes to know by one call of the method
that the request is for.
-/

namespace LdapService

namespace Program

variable {I : Interface} {σ τ α β : Type}

def mapMemory (change : σ → τ) : Program I σ α → Program I τ α
  | done memory value => done (change memory) value
  | crash memory reason => crash (change memory) reason
  | wait next => wait (mapMemory change next)
  | ask question next => ask question fun answer => mapMemory change (next answer)

theorem mapMemory_andThen {change : σ → τ} {next : σ → α → Program I σ β}
    {next' : τ → α → Program I τ β}
    (same : ∀ memory value, next' (change memory) value = (next memory value).mapMemory change)
    (program : Program I σ α) :
    (program.mapMemory change).andThen next' = (program.andThen next).mapMemory change := by
  induction program with
  | done memory value => exact same memory value
  | crash => rfl
  | wait rest ih => exact congrArg Program.wait ih
  | ask question rest ih => exact congrArg (Program.ask question) (funext ih)

theorem mapMemory_mapQuestions {J : Interface} (change : σ → τ)
    (question : I.Question → J.Question)
    (answer : (q : I.Question) → J.Answer (question q) → I.Answer q) (program : Program I σ α) :
    (program.mapMemory change).mapQuestions question answer =
      (program.mapQuestions question answer).mapMemory change := by
  induction program with
  | done => rfl
  | crash => rfl
  | wait rest ih => exact congrArg Program.wait ih
  | ask q rest ih => exact congrArg (Program.ask (question q)) (funext fun a => ih (answer q a))

end Program

namespace Handler

inductive Call where
  | simpleBind (version : Nat) (name : Option String) (password : Octets)
  | saslBind (mechanism : String) (credentials : Option Octets)
  | search (request : SearchRequest)
  | modify (request : ModifyRequest)
  | add (entry : Entry)
  | delete (dn : String)
  | modifyDn (request : ModifyDnRequest)
  | compare (request : CompareRequest)
  | extended (request : ExtendedRequest)

variable {I : Interface} {σ α β : Type}

def noting (call : Call) (operation : Operation I σ α) : Operation I (σ × List Call) α :=
  fun memory => (operation memory.1).mapMemory fun after => (after, memory.2 ++ [call])

def noted (handler : Handler σ) : Handler (σ × List Call) where
  simpleBind version name password :=
    noting (.simpleBind version name password) (handler.simpleBind version name password)
  saslBind mechanism credentials :=
    noting (.saslBind mechanism credentials) (handler.saslBind mechanism credentials)
  search request := noting (.search request) (handler.search request)
  modify request := noting (.modify request) (handler.modify request)
  add entry := noting (.add entry) (handler.add entry)
  delete dn := noting (.delete dn) (handler.delete dn)
  modifyDn request := noting (.modifyDn request) (handler.modifyDn request)
  compare request := noting (.compare request) (handler.compare request)
  extended request := noting (.extended request) (handler.extended request)

theorem map_noting (change : α → β) (call : Call) (operation : Operation I σ α) (memory : σ)
    (notes : List Call) :
    (change <$> noting call operation) (memory, notes) =
      ((change <$> operation) memory).mapMemory fun after => (after, notes ++ [call]) := by
  rw [Operation.map_apply, Operation.map_apply]
  exact Program.mapMemory_andThen (fun _ _ => rfl) (operation memory)

theorem toStreaming_noting (call : Call) (operation : Operation backend σ α) :
    (noting call operation).toStreaming = noting call operation.toStreaming :=
  funext fun memory => Program.mapMemory_mapQuestions _ _ _ (operation memory.1)

end Handler

/-- The one call that a request is for, if it is for any. -/
def Request.call? : Request → Option Handler.Call
  | .bind request =>
      match request.authentication with
      | .simple password =>
          some (.simpleBind request.version
            (if request.name = "" then none else some request.name) password)
      | .sasl mechanism credentials => some (.saslBind mechanism credentials)
  | .search request => some (.search request)
  | .modify request => some (.modify request)
  | .add entry => some (.add entry)
  | .delete dn => some (.delete dn)
  | .modifyDn request => some (.modifyDn request)
  | .compare request => some (.compare request)
  | .extended request => some (.extended request)
  | .unbind | .abandon _ => none

theorem Request.call?_of_unanswered {request : Request}
    (unanswered : request.kind.response? = none) : request.call? = none := by
  cases request with
  | unbind | abandon => rfl
  | _ => cases unanswered

theorem Handler.perform_noted {σ : Type} (handler : Handler σ) (request : Request) (memory : σ)
    (notes : List Call) :
    handler.noted.perform request (memory, notes) =
      (handler.perform request memory).mapMemory fun after =>
        (after, notes ++ request.call?.toList) := by
  have backends {α β : Type} (change : α → β) (call : Call) (operation : Operation backend σ α) :
      (change <$> (noting call operation).toStreaming) (memory, notes) =
        ((change <$> operation.toStreaming) memory).mapMemory
          fun after => (after, notes ++ [call]) := by
    rw [toStreaming_noting]
    exact map_noting change call operation.toStreaming memory notes
  cases request with
  | bind request =>
    obtain ⟨version, name, authentication⟩ := request
    cases authentication with
    | simple password => exact backends _ _ _
    | sasl mechanism credentials => exact backends _ _ _
  | search request => exact map_noting _ _ _ _ _
  | modify | add | delete | modifyDn | compare | extended => exact backends _ _ _
  | unbind | abandon =>
    rw [Request.call?, Option.toList_none, List.append_nil]
    rfl

end LdapService

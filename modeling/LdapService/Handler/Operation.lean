import LdapService.Attributes
import LdapService.Failure
import LdapService.Program

/-!
Operations of a handler. An operation works on the memory of its connection
and asks the directory behind the service and the credential cache; a search
may also send entries. What it asks is answered one question at a time, so
other connections can come between any two of them.
-/

namespace LdapService

namespace Backend

inductive Question where
  | listEntries
  | getEntry (dn : String)
  | verifyPassword (dn password : String)
  | password (dn : String)
  | recall (key password : String)
  | remember (key password : String)
  | forget (key : String)
  deriving DecidableEq, Repr

abbrev Answer : Question → Type
  | .listEntries => Except ServiceError (List Entry)
  | .getEntry _ => Except ServiceError (Option Entry)
  | .verifyPassword _ _ => Except ServiceError Bool
  | .password _ => Except ServiceError (Option String)
  | .recall _ _ => Bool
  | .remember _ _ => Unit
  | .forget _ => Unit

end Backend

abbrev backend : Interface := ⟨Backend.Question, Backend.Answer⟩

namespace Streaming

inductive Question where
  | backend (question : Backend.Question)
  | send (entry : Entry)
  | isClosed

abbrev Answer : Question → Type
  | .backend question => Backend.Answer question
  | .send _ => Except Failure Unit
  | .isClosed => Bool

end Streaming

abbrev streaming : Interface := ⟨Streaming.Question, Streaming.Answer⟩

/-- A computation on a memory that may fail. A failure keeps what the memory
has become. -/
def Operation (I : Interface) (σ α : Type) : Type :=
  σ → Program I σ (Except Failure α)

namespace Operation

variable {I : Interface} {σ α β : Type}

protected def bind (first : Operation I σ α) (next : α → Operation I σ β) : Operation I σ β :=
  fun memory => (first memory).andThen fun memory outcome =>
    match outcome with
    | .ok value => next value memory
    | .error failure => .done memory (.error failure)

instance : Monad (Operation I σ) where
  pure value := fun memory => .done memory (.ok value)
  bind := Operation.bind

instance : MonadExceptOf Failure (Operation I σ) where
  throw failure := fun memory => .done memory (.error failure)
  tryCatch first recover := fun memory => (first memory).andThen fun memory outcome =>
    match outcome with
    | .ok value => .done memory (.ok value)
    | .error failure => recover failure memory

instance : MonadStateOf σ (Operation I σ) where
  get := fun memory => .done memory (.ok memory)
  set memory := fun _ => .done memory (.ok ())
  modifyGet change := fun memory => .done (change memory).2 (.ok (change memory).1)

def ask (question : I.Question) : Operation I σ (I.Answer question) :=
  fun memory => .ask question fun answer => .done memory (.ok answer)

def wait : Operation I σ Unit :=
  fun memory => .wait (.done memory (.ok ()))

def crash (reason : Option String := none) : Operation I σ α :=
  fun memory => .crash memory reason

def ofExcept (outcome : Except Failure α) : Operation I σ α :=
  fun memory => .done memory outcome

def ofService (outcome : Except ServiceError α) : Operation I σ α :=
  ofExcept (outcome.mapError Failure.ofServiceError)

def toStreaming (operation : Operation backend σ α) : Operation streaming σ α :=
  fun memory => (operation memory).mapQuestions .backend fun _ answer => answer

end Operation

namespace Backend

variable {σ : Type}

def ask (question : Question) : Operation backend σ (Answer question) :=
  @Operation.ask backend σ question

def listEntries : Operation backend σ (List Entry) := do
  Operation.ofService (← ask .listEntries)

def getEntry (dn : String) : Operation backend σ (Option Entry) := do
  Operation.ofService (← ask (.getEntry dn))

def verifyPassword (dn password : String) : Operation backend σ Bool := do
  Operation.ofService (← ask (.verifyPassword dn password))

end Backend

namespace Streaming

variable {σ : Type}

def ask (question : Question) : Operation streaming σ (Answer question) :=
  @Operation.ask streaming σ question

def send (entry : Entry) : Operation streaming σ Unit := do
  Operation.ofExcept (← ask (.send entry))

def isClosed : Operation streaming σ Bool :=
  ask .isClosed

end Streaming

end LdapService

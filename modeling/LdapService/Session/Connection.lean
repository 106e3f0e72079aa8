import LdapService.Handler.Basic
import LdapService.Message.DecodeError
import LdapService.Session.Observation
import LdapService.Session.Writer

/-!
Operations on a connection, one at a time. A request that is answered becomes
a task, and however the handler ends it, with a value, a failure or a crash,
the task ends in one answer. A task goes on by single steps, so the reader and
other connections can come between any two.
-/

namespace LdapService

inductive Stage where
  | idle
  | decoding
  | dispatching
  | streaming
  | completed
  | closed
  deriving DecidableEq, Repr

inductive Flow where
  | proceed
  | close
  deriving DecidableEq, Repr

/-- The shared store and cache: a state and its answers. -/
structure Environment (ω : Type) where
  answer : (question : Backend.Question) → ω → Backend.Answer question × ω

structure Connection (σ : Type) where
  memory : σ
  stage : Stage := .idle
  writer : Writer := {}
  observed : List Observation := []

structure Task (σ : Type) where
  id : Nat
  kind : RequestKind
  response : ResponseKind
  stream : SearchStream
  program : Program streaming σ (Except Failure Reply)

structure Exchange (ω σ : Type) where
  outside : ω
  stream : SearchStream
  connection : Connection σ

namespace Connection

variable {ω σ : Type}

def observe (observation : Observation) (connection : Connection σ) : Connection σ :=
  { connection with observed := connection.observed ++ [observation] }

def close (connection : Connection σ) : Connection σ :=
  { connection with stage := .closed }

def takeWritten (connection : Connection σ) : List Octets × Connection σ :=
  let transport := connection.writer.transport
  (transport.written, { connection with writer.transport := { transport with written := [] } })

/-- Writes the answer of an operation, if there is anyone to read it. -/
def finish (frame : Octets) (connection : Connection σ) : Flow × Connection σ :=
  if connection.writer.isClosed then (.close, connection.close)
  else
    match connection.writer.write frame with
    | (.ok (), writer) => (.proceed, { connection with writer, stage := .idle })
    | (.error _, writer) => (.close, { connection with writer, stage := .closed })

/-- Tells the client that the connection ends. No one waits for success. -/
def notify (code : ResultCode) (diagnostic : String) (connection : Connection σ) : Connection σ :=
  { connection with writer := (connection.writer.write (Response.notice code diagnostic)).2 }

def reject (error : DecodeError) (connection : Connection σ) : Flow × Connection σ :=
  match error with
  | .malformed reason =>
      (.close, ((connection.observe (.decodeError true)).notify .protocolError reason).close)
  | .refused refusal =>
      { connection.observe (.decodeError false) with stage := .completed }.finish
        (Response.plain refusal.id refusal.response refusal.code refusal.reason)

/-- Takes up a request. Unbind and abandon are done with at once. -/
def begin (handler : Handler σ) (now : Nat) (message : Message) (connection : Connection σ) :
    (Flow ⊕ Task σ) × Connection σ :=
  let kind := message.request.kind
  match kind.response? with
  | none =>
      if kind = .unbind then (.inl .close, connection.close)
      else (.inl .proceed, { connection with stage := .idle })
  | some response =>
      let (stage, stream) : Stage × SearchStream := match message.request with
        | .search request => (.streaming, .ofRequest message.id now request)
        | _ => (.dispatching, { id := message.id })
      (.inr {
        id := message.id, kind, response, stream
        program := handler.perform message.request connection.memory },
        { connection with stage })

def answerOf (task : Task σ) : Except Failure Reply → ResultCode × Octets
  | .ok (.code code) => (code, Response.plain task.id task.response code "")
  | .ok (.extended response) =>
      (.success, Response.extended task.id .success "" response.name response.value)
  | .error failure =>
      (failure.code,
        Response.plain task.id task.response failure.code (failure.diagnostic.getD ""))

/-- Ends a task. It is counted under its code whether or not the answer can
be written. -/
def conclude (task : Task σ) (memory : σ) (outcome : Except Failure Reply)
    (connection : Connection σ) : Flow × Connection σ :=
  let (code, frame) := answerOf task outcome
  ({ connection with memory, stage := .completed }.observe
    (.operation task.kind.name code)).finish frame

end Connection

namespace Exchange

variable {ω σ : Type}

def send (now : Nat) (entry : Entry) (exchange : Exchange ω σ) :
    Except Failure Unit × Exchange ω σ :=
  let connection := exchange.connection
  match exchange.stream.send Writer.sink now entry connection.writer with
  | (outcome, stream, writer) =>
      let connection := { connection with writer }
      let connection := match outcome with
        | .ok () => connection.observe .entrySent
        | .error _ => connection
      (outcome, { exchange with stream, connection })

def answer (environment : Environment ω) (now : Nat) :
    (question : Streaming.Question) → Exchange ω σ → Streaming.Answer question × Exchange ω σ
  | .backend question, exchange =>
      let (reply, outside) := environment.answer question exchange.outside
      (reply, { exchange with outside })
  | .send entry, exchange => exchange.send now entry
  | .isClosed, exchange => (exchange.connection.writer.isClosed, exchange)

end Exchange

inductive Task.Progress (σ : Type) where
  | waiting
  | running (task : Task σ)
  | finished (flow : Flow)

namespace Task

variable {ω σ : Type}

def step (environment : Environment ω) (now : Nat) (task : Task σ) (outside : ω)
    (connection : Connection σ) : Progress σ × ω × Connection σ :=
  match task.program with
  | .done memory outcome =>
      let (flow, connection) := connection.conclude task memory outcome
      (.finished flow, outside, connection)
  | .crash memory _ =>
      let (flow, connection) := connection.conclude task memory (.error .serverError)
      (.finished flow, outside, connection)
  | .wait _ => (.waiting, outside, connection)
  | .ask question next =>
      let exchange : Exchange ω σ := { outside, stream := task.stream, connection }
      let (reply, exchange) := exchange.answer environment now question
      (.running { task with stream := exchange.stream, program := next reply },
        exchange.outside, exchange.connection)

theorem follows_of_step {environment : Environment ω} {now : Nat} {task next : Task σ}
    {outside outside' : ω} {connection connection' : Connection σ}
    (h : task.step environment now outside connection = (.running next, outside', connection')) :
    Program.Follows next.program task.program := by
  unfold step at h
  split at h <;> simp only [Prod.mk.injEq, reduceCtorEq, false_and] at h
  next question rest same =>
    obtain ⟨h, -⟩ := h
    cases h
    rw [same]
    exact .ask _ _ _

def wake (task : Task σ) : Task σ :=
  match task.program with
  | .wait next => { task with program := next }
  | _ => task

end Task

inductive Task.Stop (σ : Type) where
  | waiting (task : Task σ)
  | finished (flow : Flow)

def Task.run {ω σ : Type} (environment : Environment ω) (now : Nat) (task : Task σ) (outside : ω)
    (connection : Connection σ) : Stop σ × ω × Connection σ :=
  match _ : task.step environment now outside connection with
  | (.waiting, outside, connection) => (.waiting task, outside, connection)
  | (.finished flow, outside, connection) => (.finished flow, outside, connection)
  | (.running next, outside, connection) => next.run environment now outside connection
termination_by task.program
decreasing_by exact follows_of_step ‹_›

end LdapService

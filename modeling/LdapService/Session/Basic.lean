import LdapService.Message.Decode
import LdapService.Message.Frame
import LdapService.Session.Connection

/-!
A session serves one connection to its end. Requests are taken from the buffer
one at a time, each answered before the next is decoded. While an operation
runs the transport is still read: octets wait in the buffer, and a client that
is gone closes the writer at once. Shutdown is honoured between operations.
-/

namespace LdapService

inductive Signal where
  | quiet
  | shutdown
  /-- The server itself is gone. -/
  | lost
  deriving DecidableEq, Repr

inductive Phase (σ : Type) where
  | ready
  | idle
  | busy (task : Task σ)
  /-- The dispatch of a message is over, but it has not been noticed yet: the transport may be
  read some more before the session goes on with this. -/
  | settled (flow : Flow)
  | ended (result : Except ServiceError Unit)
  /-- Taken off the server before its end. -/
  | dropped

structure Session (σ : Type) where
  limit : Nat
  connection : Connection σ
  buffer : Octets := []
  /-- A failure of the transport that is not the client hanging up. -/
  readError : Option IoError := none
  phase : Phase σ := .ready

namespace Session

variable {ω σ : Type}

def start (limit : Nat) (memory : σ) : Session σ where
  limit := limit
  connection := Connection.observe .sessionOpened { memory }

/-- The transport is being read: until its end, and not between operations. Of a dispatch it
is read to its very last moment, and while its answer is being written. -/
def isReading (session : Session σ) : Bool :=
  !session.connection.writer.peerGone &&
    match session.phase with
    | .idle | .busy _ | .settled _ => true
    | .ready | .ended _ | .dropped => false

def awaken (session : Session σ) : Session σ :=
  match session.phase with
  | .idle => { session with phase := .ready }
  | _ => session

def receive (octets : Octets) (session : Session σ) : Session σ :=
  if session.isReading && octets ≠ [] then
    { session with buffer := session.buffer ++ octets }.awaken
  else session

def markPeerGone (session : Session σ) : Session σ :=
  { session with
    connection.writer.peerGone := true }

/-- The read that found the end of the stream. -/
def hangUp (session : Session σ) : Session σ :=
  if session.isReading then session.markPeerGone.awaken else session

def readFailed (error : IoError) (session : Session σ) : Session σ :=
  if session.isReading then
    let readError := if error.isHangUp then session.readError else some error
    { session.markPeerGone with readError }.awaken
  else session

/-- Lets an error strike the transport the next time. -/
def failTransport (operation : Transport.Operation) (error : IoError) (session : Session σ) :
    Session σ :=
  let transport := session.connection.writer.transport.fail operation error
  { session with
    connection.writer.transport := transport }

def finish (result : Except ServiceError Unit) (session : Session σ) : Session σ :=
  let connection := session.connection.close
  { session with
    connection := { connection with writer := connection.writer.shutDown }.observe .sessionClosed
    phase := .ended result }

def finishRead (session : Session σ) : Session σ :=
  session.finish (match session.readError with
    | some error => .error (.io error)
    | none => .ok ())

def finishShutdown (session : Session σ) : Session σ :=
  { session with
    connection := session.connection.notify .unavailable "Server shutting down" }.finish (.ok ())

def follow (flow : Flow) (session : Session σ) : Session σ :=
  match flow with
  | .proceed => { session with phase := .ready }
  | .close => session.finishRead

def reject (error : DecodeError) (session : Session σ) : Session σ :=
  let (flow, connection) := session.connection.reject error
  { session with connection }.follow flow

def takeMessage (handler : Handler σ) (now : Nat) (frame : Octets) (session : Session σ) :
    Session σ :=
  let session := { session with connection.stage := .decoding }
  match Message.decode frame with
  | .error error => session.reject error
  | .ok message =>
      match session.connection.begin handler now message with
      | (.inl flow, connection) => { session with connection, phase := .settled flow }
      | (.inr task, connection) => { session with connection, phase := .busy task }

/-- Looks for the next message: not when the client is gone or the server
shuts down, and not past the limit. -/
def next (handler : Handler σ) (now : Nat) (signal : Signal) (session : Session σ) : Session σ :=
  if session.connection.writer.peerGone then session.finishRead
  else if signal = .shutdown then session.finishShutdown
  else
    match Frame.split session.limit session.buffer with
    | .error cause => session.reject (.ofMalformation cause)
    | .ok none => { session with phase := .idle }
    | .ok (some (frame, rest)) => { session with buffer := rest }.takeMessage handler now frame

/-- One step of a session; `none` when it needs octets, the signal, or
something that its handler waits for, and when it has ended. -/
def step (handler : Handler σ) (environment : Environment ω) (now : Nat) (signal : Signal)
    (outside : ω) (session : Session σ) : Option (ω × Session σ) :=
  match session.phase with
  | .ready => some (outside, session.next handler now signal)
  | .idle => if signal = .quiet then none else some (outside, session.finishShutdown)
  | .busy task =>
      match task.step environment now outside session.connection with
      | (.waiting, _, _) => none
      | (.running task, outside, connection) =>
          some (outside, { session with connection, phase := .busy task })
      | (.finished flow, outside, connection) =>
          some (outside, { session with connection, phase := .settled flow })
  | .settled flow => some (outside, session.follow flow)
  | .ended _ | .dropped => none

def wake (session : Session σ) : Session σ :=
  match session.phase with
  | .busy task => { session with phase := .busy task.wake }
  | _ => session

def isWaiting (session : Session σ) : Bool :=
  match session.phase with
  | .busy task =>
      match task.program with
      | .wait _ => true
      | _ => false
  | _ => false

def drop (session : Session σ) : Session σ :=
  match session.phase with
  | .ended _ | .dropped => session
  | _ => { session with
      connection := session.connection.observe .sessionClosed
      phase := .dropped }

end Session

end LdapService

import LdapService.Octets
import LdapService.SearchStream
import LdapService.ServiceError

/-!
The write side of a connection. A frame is written and flushed before the next
one; the first that fails closes the writer, and so does a reader that finds
the client gone. Nothing is written on a closed writer.
-/

namespace LdapService

/-- A stream of octets as its far end sees it. An error waits here for the
operation that it strikes, and strikes once. -/
structure Transport where
  written : List Octets := []
  writeError : Option IoError := none
  flushError : Option IoError := none
  shutdownError : Option IoError := none
  isShutDown : Bool := false

namespace Transport

inductive Operation where
  | write
  | flush
  | shutDown
  deriving DecidableEq, Repr

def fail (operation : Operation) (error : IoError) (transport : Transport) : Transport :=
  match operation with
  | .write => { transport with writeError := some error }
  | .flush => { transport with flushError := some error }
  | .shutDown => { transport with shutdownError := some error }

/-- A failed write leaves nothing, and an empty frame is no write. -/
def write (frame : Octets) (transport : Transport) : Except IoError Unit × Transport :=
  if frame = [] then (.ok (), transport)
  else
    match transport.writeError with
    | some error => (.error error, { transport with writeError := none })
    | none => (.ok (), { transport with written := transport.written ++ [frame] })

def flush (transport : Transport) : Except IoError Unit × Transport :=
  match transport.flushError with
  | some error => (.error error, { transport with flushError := none })
  | none => (.ok (), transport)

def shutDown (transport : Transport) : Transport :=
  { transport with shutdownError := none, isShutDown := true }

end Transport

structure Writer where
  transport : Transport := {}
  closed : Bool := false
  /-- Set by the reader. -/
  peerGone : Bool := false

namespace Writer

def isClosed (writer : Writer) : Bool :=
  writer.closed || writer.peerGone

def transmit (frame : Octets) (transport : Transport) : Except IoError Unit × Transport :=
  match transport.write frame with
  | (.error error, transport) => (.error error, transport)
  | (.ok (), transport) => transport.flush

def write (frame : Octets) (writer : Writer) : Except ServiceError Unit × Writer :=
  if writer.isClosed then (.error .connectionClosed, writer)
  else
    match transmit frame writer.transport with
    | (.ok (), transport) => (.ok (), { writer with transport })
    | (.error error, transport) =>
        (.error (if error.isHangUp then .connectionClosed else .io error),
          { writer with transport, closed := true })

def shutDown (writer : Writer) : Writer :=
  if writer.closed then writer
  else { writer with transport := writer.transport.shutDown, closed := true }

def sink : Sink Writer := ⟨isClosed, write⟩

end Writer

end LdapService

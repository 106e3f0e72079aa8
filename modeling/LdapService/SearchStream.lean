import LdapService.Attributes
import LdapService.Failure
import LdapService.Message.Basic
import LdapService.Message.Response

/-!
The stream of entries of one search. It sends the attributes that the client
asked for and stops at the client's limits. An entry that was refused or could
not be written does not count as sent.
-/

namespace LdapService

structure Sink (κ : Type) where
  isClosed : κ → Bool
  write : Octets → κ → Except ServiceError Unit × κ

structure SearchStream where
  id : Nat
  attributes : List String := []
  typesOnly : Bool := false
  /-- 0 for no limit. -/
  sizeLimit : Nat := 0
  /-- Milliseconds of the clock. -/
  deadline : Option Nat := none
  /-- Starts again at 0 after 2 ^ 32 entries. -/
  count : UInt32 := 0

namespace SearchStream

def sent (stream : SearchStream) : Nat := stream.count.toNat

/-- A time limit of 0 is no limit; others count seconds from now. -/
def ofRequest (id now : Nat) (request : SearchRequest) : SearchStream where
  id := id
  attributes := request.attributes
  typesOnly := request.typesOnly
  sizeLimit := request.sizeLimit
  deadline := if request.timeLimit = 0 then none else some (now + request.timeLimit * 1000)

def allUserAttributes : String := "*"

def noAttributes : String := "1.1"

/-- Whether an attribute was asked for. An empty list asks for all, and so
does a list with the star; one of nothing but `1.1` asks for none. -/
def wants (stream : SearchStream) (name : String) : Bool :=
  let everything := stream.attributes.isEmpty || stream.attributes.contains allUserAttributes
  let nothing := !everything && stream.attributes.all (· == noAttributes)
  !nothing && (everything || stream.attributes.any fun wanted => Text.sameName wanted name)

def project (stream : SearchStream) (entry : Entry) : Entry :=
  { entry with attributes := entry.attributes.filter stream.wants }

def frame (stream : SearchStream) (entry : Entry) : Octets :=
  Response.entry stream.id (stream.project entry) stream.typesOnly

def connectionClosed : Failure := .unavailable "Connection closed"

/-- Why nothing more is sent: the transport, then the size, then the time. -/
def refusal? (stream : SearchStream) (closed : Bool) (now : Nat) : Option Failure :=
  if closed then some connectionClosed
  else if 0 < stream.sizeLimit ∧ stream.sizeLimit ≤ stream.sent then
    some ⟨.sizeLimitExceeded, none⟩
  else if stream.deadline.any (· ≤ now) then some ⟨.timeLimitExceeded, none⟩
  else none

def send {κ : Type} (sink : Sink κ) (now : Nat) (entry : Entry) (stream : SearchStream)
    (transport : κ) : Except Failure Unit × SearchStream × κ :=
  match stream.refusal? (sink.isClosed transport) now with
  | some failure => (.error failure, stream, transport)
  | none =>
      match sink.write (stream.frame entry) transport with
      | (.ok (), transport) => (.ok (), { stream with count := stream.count + 1 }, transport)
      | (.error _, transport) => (.error connectionClosed, stream, transport)

end SearchStream

end LdapService

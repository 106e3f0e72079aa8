import LdapService.Session.Settle

/-!
A service: sessions by number, what they share, the signal to all of them and
the clock. It goes from state to state by events. Between any two events any
session may make a step, and a step answers no more than one question of a
handler, so a run of events is an interleaving of all that the sessions do. An
event that cannot happen where a session stands changes nothing.
-/

namespace LdapService

structure Service (ω σ : Type) where
  /-- Each connection has a handler of its own. -/
  handler : Nat → Handler σ
  environment : Environment ω
  limit : Nat
  fresh : σ
  outside : ω
  now : Nat := 0
  signal : Signal := .quiet
  /-- In ascending order of the numbers. -/
  sessions : List (Nat × Session σ) := []

namespace Service

instance {σ : Type} : Coe (Handler σ) (Nat → Handler σ) := ⟨fun handler _ => handler⟩

inductive Event where
  | connected (number : Nat)
  | received (number : Nat) (octets : Octets)
  | hungUp (number : Nat)
  | readFailed (number : Nat) (error : IoError)
  | transportFails (number : Nat) (operation : Transport.Operation) (error : IoError)
  | stepped (number : Nat)
  | woken (number : Nat)
  | dropped (number : Nat)
  | signalled (signal : Signal)
  | elapsed (milliseconds : Nat)

variable {ω σ : Type}

def session? (number : Nat) (service : Service ω σ) : Option (Session σ) :=
  (service.sessions.find? fun pair => pair.1 == number).map (·.2)

def insert (number : Nat) (session : Session σ) :
    List (Nat × Session σ) → List (Nat × Session σ)
  | [] => [(number, session)]
  | pair :: rest =>
      if number < pair.1 then (number, session) :: pair :: rest
      else if number = pair.1 then (number, session) :: rest
      else pair :: insert number session rest

def put (number : Nat) (session : Session σ) (service : Service ω σ) : Service ω σ :=
  { service with sessions := insert number session service.sessions }

def alter (number : Nat) (change : Session σ → Session σ) (service : Service ω σ) : Service ω σ :=
  match service.session? number with
  | some session => service.put number (change session)
  | none => service

def connect (number : Nat) (service : Service ω σ) : Service ω σ :=
  match service.session? number with
  | some _ => service
  | none => service.put number (.start service.limit service.fresh)

def step (number : Nat) (service : Service ω σ) : Service ω σ :=
  match service.session? number with
  | none => service
  | some session =>
      match session.step (service.handler number) service.environment service.now service.signal
          service.outside with
      | none => service
      | some (outside, session) => { service with outside }.put number session

def settle (number : Nat) (service : Service ω σ) : Service ω σ :=
  match service.session? number with
  | none => service
  | some session =>
      let (outside, session) := session.settle (service.handler number) service.environment
        service.now service.signal service.outside
      { service with outside }.put number session

/-- Passes a signal on. The first one stands: a server that is lost says nothing
more, and a shutdown is not taken back. -/
def heed (signal : Signal) (service : Service ω σ) : Service ω σ :=
  if service.signal = .quiet then { service with signal } else service

def elapse (milliseconds : Nat) (service : Service ω σ) : Service ω σ :=
  { service with now := service.now + milliseconds }

def apply (service : Service ω σ) : Event → Service ω σ
  | .connected number => service.connect number
  | .received number octets => service.alter number (Session.receive octets)
  | .hungUp number => service.alter number Session.hangUp
  | .readFailed number error => service.alter number (Session.readFailed error)
  | .transportFails number operation error =>
      service.alter number (Session.failTransport operation error)
  | .stepped number => service.step number
  | .woken number => service.alter number Session.wake
  | .dropped number => service.alter number Session.drop
  | .signalled signal => service.heed signal
  | .elapsed milliseconds => service.elapse milliseconds

def run (service : Service ω σ) (events : List Event) : Service ω σ :=
  events.foldl apply service

def observed (service : Service ω σ) : List Observation :=
  service.sessions.flatMap fun pair => pair.2.connection.observed

def stop (service : Service ω σ) : Service ω σ :=
  { service with sessions := service.sessions.map fun (number, session) => (number, session.drop) }

end Service

end LdapService

import LdapService.Text.LowerCase
import LdapService.Text.Search

/-!
Failures of a transport or a file. A peer that goes away without saying so is
no trouble worth reporting, and such failures are recognised here.
-/

namespace LdapService

inductive IoError.Kind where
  | unexpectedEof
  | connectionReset
  | connectionAborted
  | connectionRefused
  | brokenPipe
  | invalidData
  | timedOut
  | notConnected
  | permissionDenied
  | writeZero
  | notFound
  | isADirectory
  | other
  deriving DecidableEq, Repr

structure IoError where
  kind : IoError.Kind
  message : String
  deriving DecidableEq, Repr

namespace IoError

def noSuchFile : IoError :=
  ⟨.notFound, "No such file or directory (os error 2)"⟩

def directoryInPlaceOfFile : IoError :=
  ⟨.isADirectory, "Is a directory (os error 21)"⟩

/-- The peer is gone, or its secure channel ended without a closing alert. -/
def isHangUp (error : IoError) : Bool :=
  match error.kind with
  | .unexpectedEof | .connectionReset | .connectionAborted | .brokenPipe => true
  | _ =>
      let text := (Text.lower error.message).toList
      Text.mentions "closenotify" text || Text.mentions "close_notify" text

end IoError

end LdapService

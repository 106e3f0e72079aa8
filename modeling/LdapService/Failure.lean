import LdapService.ResultCode
import LdapService.ServiceError

/-!
How an operation ends when it does not simply succeed: a result code and,
where the client may know more, a diagnostic.
-/

namespace LdapService

structure Failure where
  code : ResultCode
  diagnostic : Option String := none
  deriving DecidableEq, Repr

namespace Failure

def describe (failure : Failure) : String :=
  match failure.diagnostic with
  | none => failure.code.describe
  | some text => s!"{failure.code.describe}: {text}"

def operationsError (text : String) : Failure := ⟨.operationsError, some text⟩

def protocolError (text : String) : Failure := ⟨.protocolError, some text⟩

def unwillingToPerform (text : String) : Failure := ⟨.unwillingToPerform, some text⟩

def noSuchObject (text : String) : Failure := ⟨.noSuchObject, some text⟩

def unavailable (text : String) : Failure := ⟨.unavailable, some text⟩

def invalidCredentials : Failure := ⟨.invalidCredentials, none⟩

def serverError : Failure := ⟨.other, none⟩

/-- The client learns that something failed inside, and nothing about it. -/
def internal (_ : String) : Failure := serverError

def ofServiceError (error : ServiceError) : Failure := internal error.message

def ofChain (causes : List String) : Failure := internal (": ".intercalate causes)

end Failure

end LdapService

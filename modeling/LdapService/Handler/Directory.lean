import LdapService.Dn
import LdapService.Filter.Evaluate
import LdapService.Handler.Basic
import LdapService.Text.Utf8

/-!
The handler that serves a directory: bind, search, compare and "Who am I?".
A connection remembers the name it is bound to. Binds and searches below a
base only; what the directory or the cache say is asked, never assumed.
-/

namespace LdapService

structure Identity where
  bound : Option String := none
  deriving DecidableEq, Repr, Inhabited

namespace Identity

def anonymous : Identity := ⟨none⟩

def authzId (identity : Identity) : String :=
  match identity.bound with
  | some dn => s!"dn:{dn}"
  | none => ""

end Identity

structure DirectoryService where
  /-- Normalized name below which there is anything to see. -/
  base : String
  /-- Whether binds may be answered from a credential cache. -/
  caches : Bool

namespace DirectoryService

def whoAmI : String := "1.3.6.1.4.1.4203.1.11.3"

def ofBase (base : String) (caches : Bool) : DirectoryService :=
  ⟨Dn.normalize base, caches⟩

def inScope (dn base : String) : Scope → Bool
  | .base => dn == base
  | .oneLevel => Dn.parent dn == base
  | .subtree => Dn.isWithin dn base

variable (service : DirectoryService)

/-- Asks the cache first and tells it what the directory said. -/
def checkPassword (name key password : String) : Operation backend Identity Bool := do
  if service.caches then
    if ← Backend.ask (.recall key password) then return true
    let valid ← Backend.verifyPassword name password
    if valid then Backend.ask (.remember key password) else Backend.ask (.forget key)
    return valid
  else Backend.verifyPassword name password

/-- A failed bind leaves the connection anonymous, once the version is known
to be one that the service speaks. -/
def simpleBind (version : Nat) (name : Option String) (password : Octets) :
    Operation backend Identity Unit := do
  Handler.requireVersion3 version
  set Identity.anonymous
  match name with
  | none => pure ()
  | some name =>
      if password.isEmpty then
        throw (.unwillingToPerform "Unauthenticated bind is not allowed")
      let key := Dn.normalize name
      unless Dn.isWithin key service.base do throw .invalidCredentials
      match Text.ofUtf8? password with
      | none => throw .invalidCredentials
      | some password =>
          if ← service.checkPassword name key password then set (Identity.mk (some key))
          else throw .invalidCredentials

/-- Puts the password of an entry that was found into the cache. A directory
that cannot tell it is no trouble. -/
def warm (dn : String) : Operation backend Identity Unit := do
  if service.caches then
    match ← Backend.ask (.password dn) with
    | .ok (some password) => Backend.ask (.remember (Dn.normalize dn) password)
    | _ => pure ()

def sendMatching (base : String) (scope : Scope) (filter : Filter) :
    List Entry → Operation streaming Identity Unit
  | [] => pure ()
  | entry :: rest => do
      if inScope (Dn.normalize entry.dn) base scope then
        if (← Operation.ofExcept (filter.evaluate .standard entry.get?)) = .holds then
          Streaming.send entry
          (service.warm entry.dn).toStreaming
      sendMatching base scope filter rest

def search (request : SearchRequest) : Operation streaming Identity Unit := do
  let base := Dn.normalize request.base
  let missing : Failure := .noSuchObject s!"No such object: {base}"
  unless Dn.isWithin base service.base do throw missing
  if (← (Backend.getEntry base).toStreaming).isNone then throw missing
  service.sendMatching base request.scope request.filter (← Backend.listEntries.toStreaming)

/-- The one operation that does not look at the base. -/
def compare (request : CompareRequest) : Operation backend Identity Bool := do
  match ← Backend.getEntry request.dn with
  | none => throw (.noSuchObject s!"No such object: {request.dn}")
  | some entry =>
      if (entry.get? request.attr).isNone then
        throw ⟨.noSuchAttribute, some s!"{request.dn} has no attribute {request.attr}"⟩
      let filter : Filter := .equality { attr := request.attr, value := request.value }
      return (← Operation.ofExcept (filter.evaluate .standard entry.get?)) = .holds

def extended (request : ExtendedRequest) : Operation backend Identity ExtendedResponse := do
  if request.name = whoAmI then
    return { value := some (Text.utf8 (← get).authzId) }
  else Handler.noExtension request

def handler : Handler Identity where
  simpleBind := service.simpleBind
  search := service.search
  compare := compare
  extended := extended

end DirectoryService

end LdapService

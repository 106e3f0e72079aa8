import LdapService.Handler.Operation
import LdapService.Message.Basic

/-!
Handlers: what a service does with each kind of request. Every method has a
default, so a handler says only what it supports. By itself a handler lets
anonymous clients in and does nothing for them.
-/

namespace LdapService

namespace Handler

def requireVersion3 {σ : Type} (version : Nat) : Operation backend σ Unit :=
  if version = 3 then pure ()
  else throw (.protocolError s!"LDAP version {version} is not supported")

def anonymousOnly {σ : Type} (version : Nat) (name : Option String) (password : Octets) :
    Operation backend σ Unit := do
  requireVersion3 version
  unless name.isNone && password.isEmpty do
    throw ⟨.inappropriateAuthentication, some "Only anonymous binds are accepted"⟩

def noMechanism {σ : Type} (mechanism : String) (_ : Option Octets) : Operation backend σ Unit :=
  throw ⟨.authMethodNotSupported, some s!"SASL mechanism {mechanism} is not supported"⟩

def unsupported {I : Interface} {σ α : Type} (operation : String) : Operation I σ α :=
  throw (.unwillingToPerform s!"{operation} is not supported")

def noExtension {σ : Type} (request : ExtendedRequest) : Operation backend σ ExtendedResponse :=
  throw (.protocolError s!"Extended operation {request.name} is not supported")

end Handler

structure Handler (σ : Type) where
  /-- Bind with protocol version, name and password; no name for an empty one. -/
  simpleBind : Nat → Option String → Octets → Operation backend σ Unit := Handler.anonymousOnly
  saslBind : String → Option Octets → Operation backend σ Unit := Handler.noMechanism
  search : SearchRequest → Operation streaming σ Unit := fun _ => Handler.unsupported "Search"
  modify : ModifyRequest → Operation backend σ Unit := fun _ => Handler.unsupported "Modify"
  add : Entry → Operation backend σ Unit := fun _ => Handler.unsupported "Add"
  delete : String → Operation backend σ Unit := fun _ => Handler.unsupported "Delete"
  modifyDn : ModifyDnRequest → Operation backend σ Unit := fun _ => Handler.unsupported "ModifyDN"
  compare : CompareRequest → Operation backend σ Bool := fun _ => Handler.unsupported "Compare"
  extended : ExtendedRequest → Operation backend σ ExtendedResponse := Handler.noExtension

inductive Reply where
  | code (code : ResultCode)
  | extended (response : ExtendedResponse)

namespace Handler

variable {σ : Type}

def bind (handler : Handler σ) (request : BindRequest) : Operation backend σ Unit :=
  match request.authentication with
  | .simple password =>
      handler.simpleBind request.version (if request.name = "" then none else some request.name)
        password
  | .sasl mechanism credentials => handler.saslBind mechanism credentials

def perform (handler : Handler σ) (request : Request) : Operation streaming σ Reply :=
  let success {α : Type} (_ : α) : Reply := .code .success
  match request with
  | .bind request => success <$> (handler.bind request).toStreaming
  | .search request => success <$> handler.search request
  | .modify request => success <$> (handler.modify request).toStreaming
  | .add entry => success <$> (handler.add entry).toStreaming
  | .delete dn => success <$> (handler.delete dn).toStreaming
  | .modifyDn request => success <$> (handler.modifyDn request).toStreaming
  | .compare request => do
      let matched ← (handler.compare request).toStreaming
      return .code (if matched then .compareTrue else .compareFalse)
  | .extended request => .extended <$> (handler.extended request).toStreaming
  | .unbind => pure (.code .success)
  | .abandon _ => pure (.code .success)

end Handler

end LdapService

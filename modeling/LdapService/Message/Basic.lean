import LdapService.Attributes
import LdapService.Filter.Basic
import LdapService.Message.Kind

/-!
Requests as a client means them, and the message that carries one. Limits of
a search are 0 when the client sets none; the time limit counts seconds.
-/

namespace LdapService

def maxInt : Nat := 2147483647

inductive Scope where
  | base
  | oneLevel
  | subtree
  deriving DecidableEq, Repr, Inhabited

def Scope.ofNumber? : Int → Option Scope
  | 0 => some base
  | 1 => some oneLevel
  | 2 => some subtree
  | _ => none

def Scope.number : Scope → Int
  | base => 0
  | oneLevel => 1
  | subtree => 2

inductive DerefAliases where
  | never
  | inSearching
  | findingBase
  | always
  deriving DecidableEq, Repr, Inhabited

def DerefAliases.ofNumber? : Int → Option DerefAliases
  | 0 => some never
  | 1 => some inSearching
  | 2 => some findingBase
  | 3 => some always
  | _ => none

def DerefAliases.number : DerefAliases → Int
  | never => 0
  | inSearching => 1
  | findingBase => 2
  | always => 3

inductive Authentication where
  | simple (password : Octets)
  | sasl (mechanism : String) (credentials : Option Octets)
  deriving DecidableEq, Repr

structure BindRequest where
  version : Nat
  name : String
  authentication : Authentication
  deriving DecidableEq, Repr

structure SearchRequest where
  base : String
  scope : Scope
  deref : DerefAliases := .never
  sizeLimit : Nat := 0
  timeLimit : Nat := 0
  typesOnly : Bool := false
  filter : Filter
  attributes : List String := []

inductive ModifyOperation where
  | add
  | delete
  | replace
  deriving DecidableEq, Repr

def ModifyOperation.ofNumber? : Int → Option ModifyOperation
  | 0 => some add
  | 1 => some delete
  | 2 => some replace
  | _ => none

def ModifyOperation.number : ModifyOperation → Int
  | add => 0
  | delete => 1
  | replace => 2

structure Modification where
  operation : ModifyOperation
  attr : String
  values : List String
  deriving DecidableEq, Repr

structure ModifyRequest where
  dn : String
  changes : List Modification
  deriving DecidableEq, Repr

structure ModifyDnRequest where
  dn : String
  newRdn : String
  deleteOldRdn : Bool
  newSuperior : Option String
  deriving DecidableEq, Repr

structure CompareRequest where
  dn : String
  attr : String
  value : String
  deriving DecidableEq, Repr

structure ExtendedRequest where
  name : String
  value : Option Octets := none
  deriving DecidableEq, Repr

structure ExtendedResponse where
  name : Option String := none
  value : Option Octets := none
  deriving DecidableEq, Repr

inductive Request where
  | bind (request : BindRequest)
  | unbind
  | search (request : SearchRequest)
  | modify (request : ModifyRequest)
  | add (entry : Entry)
  | delete (dn : String)
  | modifyDn (request : ModifyDnRequest)
  | compare (request : CompareRequest)
  | abandon (id : Nat)
  | extended (request : ExtendedRequest)

def Request.kind : Request → RequestKind
  | bind _ => .bind
  | unbind => .unbind
  | search _ => .search
  | modify _ => .modify
  | add _ => .add
  | delete _ => .delete
  | modifyDn _ => .modifyDn
  | compare _ => .compare
  | abandon _ => .abandon
  | extended _ => .extended

structure Control where
  oid : String
  critical : Bool := false
  value : Option Octets := none
  deriving DecidableEq, Repr

structure Message where
  id : Nat
  request : Request
  controls : List Control := []

end LdapService

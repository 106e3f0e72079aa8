import LdapService.Octets

/-!
The operations of the protocol and their answers. Request tags, answer tags
and which request gets which answer are said once, here, so that a request
known only by its tag is answered as the decoded request would be.
-/

namespace LdapService

inductive ResponseKind where
  | bind
  | searchDone
  | modify
  | add
  | delete
  | modifyDn
  | compare
  | extended
  deriving DecidableEq, Repr

def ResponseKind.tag : ResponseKind → UInt8
  | bind => 0x61
  | searchDone => 0x65
  | modify => 0x67
  | add => 0x69
  | delete => 0x6b
  | modifyDn => 0x6d
  | compare => 0x6f
  | extended => 0x78

inductive RequestKind where
  | bind
  | unbind
  | search
  | modify
  | add
  | delete
  | modifyDn
  | compare
  | abandon
  | extended
  deriving DecidableEq, Repr

namespace RequestKind

def all : List RequestKind :=
  [.bind, .unbind, .search, .modify, .add, .delete, .modifyDn, .compare, .abandon, .extended]

def tag : RequestKind → UInt8
  | bind => 0x60
  | unbind => 0x42
  | search => 0x63
  | modify => 0x66
  | add => 0x68
  | delete => 0x4a
  | modifyDn => 0x6c
  | compare => 0x6e
  | abandon => 0x50
  | extended => 0x77

def ofTag? (tag : UInt8) : Option RequestKind :=
  all.find? fun kind => kind.tag == tag

theorem ofTag?_tag (kind : RequestKind) : ofTag? kind.tag = some kind := by
  cases kind <;> rfl

def name : RequestKind → String
  | bind => "bind"
  | unbind => "unbind"
  | search => "search"
  | modify => "modify"
  | add => "add"
  | delete => "delete"
  | modifyDn => "modify_dn"
  | compare => "compare"
  | abandon => "abandon"
  | extended => "extended"

def response? : RequestKind → Option ResponseKind
  | bind => some .bind
  | unbind => none
  | search => some .searchDone
  | modify => some .modify
  | add => some .add
  | delete => some .delete
  | modifyDn => some .modifyDn
  | compare => some .compare
  | abandon => none
  | extended => some .extended

end RequestKind

/-- The answer to an operation that is refused: what its tag calls for, and an
extended response where the tag calls for nothing. -/
def ResponseKind.forTag (tag : UInt8) : ResponseKind :=
  ((RequestKind.ofTag? tag).bind RequestKind.response?).getD .extended

end LdapService

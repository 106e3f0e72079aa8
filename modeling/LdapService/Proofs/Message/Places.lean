import LdapService.Message.Reading
import LdapService.Proofs.Ber.Contents

/-!
Where texts stand in a request, by the grammar of the protocol, and where its octet strings. A
place is told by what changes there: `change` relates its content before and after, under its
tag, and all around it stays. Element numbers in a run begin at 0.
-/

namespace LdapService

open Ber

variable (change : UInt8 → Octets → Octets → Prop)

def Assertion.ChangesText (before after : Octets) : Prop :=
  ChangedAt change 0 before after ∨ ChangedAt change 1 before after

def SubstringsAssertion.ChangesText (before after : Octets) : Prop :=
  ChangedAt change 0 before after ∨ ChangedAt (fun _ => Changed change) 1 before after

def Attributes.ChangesText (before after : Octets) : Prop :=
  ChangedAt change 0 before after ∨ ChangedAt (fun _ => Changed change) 1 before after

/-- A part of an extensible match that is a text: its rule, its attribute or its value, each
under a tag of its own. The flag is none. -/
def Filter.ChangesExtensible (tag : UInt8) (before after : Octets) : Prop :=
  tag ∈ [Tag.Extensible.rule, Tag.Extensible.attr, Tag.Extensible.value] ∧ change tag before after

/-- A text at any depth of a filter. -/
inductive Filter.ChangesText : UInt8 → Octets → Octets → Prop
  | combination {tag : UInt8} (combines : tag = Tag.Filter.and ∨ tag = Tag.Filter.or) {index : Nat}
      {before after : Octets} (child : ChangedAt ChangesText index before after) :
      ChangesText tag before after
  | negation {before after : Octets} (child : ChangedAt ChangesText 0 before after) :
      ChangesText Tag.Filter.not before after
  | comparison {tag : UInt8}
      (compares : tag ∈ [Tag.Filter.equality, Tag.Filter.approximate, Tag.Filter.greaterOrEqual,
        Tag.Filter.lessOrEqual])
      {before after : Octets} (part : Assertion.ChangesText change before after) :
      ChangesText tag before after
  | substrings {before after : Octets}
      (part : SubstringsAssertion.ChangesText change before after) :
      ChangesText Tag.Filter.substrings before after
  | present {before after : Octets} (attr : change Tag.Filter.present before after) :
      ChangesText Tag.Filter.present before after
  | extensible {index : Nat} {before after : Octets}
      (part : ChangedAt (ChangesExtensible change) index before after) :
      ChangesText Tag.Filter.extensible before after

namespace Request

def ChangesText (kind : RequestKind) (before after : Octets) : Prop :=
  match kind with
  -- the name, or the mechanism of an authentication by SASL
  | .bind => ChangedAt change 1 before after ∨
      ChangedAt (fun tag before after =>
        tag = Tag.Bind.sasl ∧ ChangedAt change 0 before after) 2 before after
  -- the base, behind four numbers and a flag the filter, and the attributes that are asked for
  | .search => ChangedAt change 0 before after ∨
      ChangedAt (Filter.ChangesText change) 6 before after ∨
      ChangedAt (fun _ => Changed change) 7 before after
  -- the name, or in one of the changes the attribute behind the operation
  | .modify => ChangedAt change 0 before after ∨
      ChangedAt (fun _ => Changed fun _ =>
        ChangedAt (fun _ => Attributes.ChangesText change) 1) 1 before after
  | .add => ChangedAt change 0 before after ∨
      ChangedAt (fun _ => Changed fun _ => Attributes.ChangesText change) 1 before after
  -- the name is all there is
  | .delete => change RequestKind.delete.tag before after
  -- the name, the new one, and behind a flag the new superior
  | .modifyDn => ChangedAt change 0 before after ∨ ChangedAt change 1 before after ∨
      ChangedAt change 3 before after
  | .compare => ChangedAt change 0 before after ∨
      ChangedAt (fun _ => Assertion.ChangesText change) 1 before after
  | .extended => ChangedAt change 0 before after
  | .unbind | .abandon => False

def ChangesOctets (kind : RequestKind) (before after : Octets) : Prop :=
  match kind with
  | .bind => ChangedAt (fun tag before after =>
      tag = Tag.Bind.simple ∧ change tag before after ∨
        tag = Tag.Bind.sasl ∧ ChangedAt change 1 before after) 2 before after
  | .extended => ChangedAt change 1 before after
  | _ => False

end Request

namespace Message

/-- A frame is one element, and the operation stands in it behind the number. -/
def ChangesOperation (frame frame' : Octets) : Prop :=
  ChangedAt (fun _ => ChangedAt change 1) 0 frame frame'

/-- One text of the operation is another, and the frame has the length that it had. -/
def ChangesText : Octets → Octets → Prop :=
  ChangesOperation fun tag before after => ∃ kind,
    RequestKind.ofTag? tag = some kind ∧ Request.ChangesText change kind before after

/-- One octet string of the operation is another of the same length. -/
def ChangesOctets : Octets → Octets → Prop :=
  ChangesOperation fun tag before after => ∃ kind,
    RequestKind.ofTag? tag = some kind ∧ Request.ChangesOctets change kind before after

end Message

end LdapService

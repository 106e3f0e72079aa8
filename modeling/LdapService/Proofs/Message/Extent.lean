import LdapService.Proofs.Message.Accepted
import LdapService.Proofs.Text.Size

/-!
How much there is in a message. It is taken apart into everything in it that came as an element of
its own; the number of these parts is compared with the octets that they take at least where they
come from, and so is their size, which is what they hold.
-/

namespace LdapService

/-- Something in a message that came as an element of its own. -/
inductive Part where
  | frame
  | text (content : String)
  | octets (content : Octets)
  /-- A choice of which nothing is kept but how its tag is spelled. -/
  | choice (name : String)

namespace Part

def held : Part → Octets
  | frame => []
  | text content => Text.utf8 content
  | octets content => content
  | choice name => Text.utf8 name

def size (part : Part) : Nat :=
  1 + part.held.length

/-- What it takes at least among the octets of a message, a tag and a length field in front. The
name of a choice is made from the tag. -/
def extent : Part → Nat
  | choice _ => 2
  | part => 2 + part.held.length

def footprint (parts : List Part) : Nat :=
  (parts.map extent).sum

def IsShort : Part → Prop
  | choice name => Text.size name ≤ 4
  | _ => True

variable {part : Part} {parts more : List Part}

@[simp] theorem extent_frame : frame.extent = 2 := rfl

@[simp] theorem extent_text (content : String) : (text content).extent = Text.size content + 2 :=
  Nat.add_comm 2 _

@[simp] theorem extent_octets (content : Octets) : (octets content).extent = content.length + 2 :=
  Nat.add_comm 2 _

@[simp] theorem footprint_nil : footprint [] = 0 := rfl

@[simp] theorem footprint_cons :
    footprint (part :: parts) = part.extent + footprint parts := rfl

@[simp] theorem footprint_append :
    footprint (parts ++ more) = footprint parts + footprint more := by
  simp only [footprint, List.map_append, List.sum_append]

theorem footprint_flatMap {α : Type} (items : List α) (partsOf : α → List Part) :
    footprint (items.flatMap partsOf) = (items.map fun item => footprint (partsOf item)).sum := by
  induction items with
  | nil => rfl
  | cons item rest ih => rw [List.flatMap_cons, footprint_append, ih, List.map_cons, List.sum_cons]

theorem footprint_map {α : Type} (items : List α) (part : α → Part) :
    footprint (items.map part) = (items.map fun item => (part item).extent).sum := by
  rw [footprint, List.map_map]
  rfl

@[simp] theorem footprint_optionalText (found : Option String) :
    footprint (found.toList.map text) = found.elim 0 fun text => Text.size text + 2 := by
  cases found with
  | none => rfl
  | some content => exact extent_text content

@[simp] theorem footprint_optional (found : Option Octets) :
    footprint (found.toList.map octets) = found.elim 0 fun content => content.length + 2 := by
  cases found with
  | none => rfl
  | some content => exact extent_octets content

theorem two_le_extent (part : Part) : 2 ≤ part.extent := by
  cases part with
  | choice name => exact Nat.le_refl 2
  | _ => exact Nat.le_add_right 2 _

theorem two_mul_length_le (parts : List Part) : 2 * parts.length ≤ footprint parts := by
  induction parts with
  | nil => exact Nat.le_refl _
  | cons part rest ih =>
    have header := part.two_le_extent
    rw [List.length_cons, footprint_cons]
    omega

theorem isShort_texts (texts : List String) : ∀ part ∈ texts.map text, part.IsShort :=
  List.forall_mem_map.2 fun _ _ => trivial

theorem isShort_optional (found : Option Octets) :
    ∀ part ∈ found.toList.map octets, part.IsShort :=
  List.forall_mem_map.2 fun _ _ => trivial

theorem size_le (short : part.IsShort) : part.size ≤ 3 * part.extent := by
  cases part with
  | choice name =>
    change 1 + Text.size name ≤ 3 * 2
    change Text.size name ≤ 4 at short
    omega
  | _ =>
    simp only [size, extent]
    omega

theorem sum_size_le (short : ∀ part ∈ parts, part.IsShort) :
    (parts.map size).sum ≤ 3 * footprint parts := by
  induction parts with
  | nil => exact Nat.le_refl _
  | cons part rest ih =>
    obtain ⟨first, others⟩ := List.forall_mem_cons.1 short
    have part_le := size_le first
    have rest_le := ih others
    rw [List.map_cons, List.sum_cons, footprint_cons]
    omega

end Part

/-! The parts of everything that is read. -/

def Assertion.parts (assertion : Assertion) : List Part :=
  .text assertion.attr :: (assertion.rule.toList ++ [assertion.value]).map .text

def SubstringsAssertion.parts (assertion : SubstringsAssertion) : List Part :=
  .text assertion.attr ::
    (assertion.rule.toList ++ assertion.segments.map Segment.text).map .text

namespace Filter

mutual

def parts : Filter → List Part
  | present attr => [.text attr]
  | always => [.frame]
  | never => [.frame]
  | undefined => [.frame]
  | equality assertion => .frame :: assertion.parts
  | greaterOrEqual assertion => .frame :: assertion.parts
  | lessOrEqual assertion => .frame :: assertion.parts
  | substrings assertion => .frame :: assertion.parts
  | and children => .frame :: partsAll children
  | or children => .frame :: partsAll children
  | not child => .frame :: parts child
  | unknown name => [.choice name]

def partsAll : List Filter → List Part
  | [] => []
  | child :: rest => parts child ++ partsAll rest

end

theorem partsAll_eq_flatMap (children : List Filter) : partsAll children = children.flatMap parts := by
  induction children with
  | nil => rfl
  | cons child rest ih => rw [partsAll, ih, List.flatMap_cons]

end Filter

def Authentication.parts : Authentication → List Part
  | .simple password => [.octets password]
  | .sasl mechanism credentials => .frame :: .text mechanism :: credentials.toList.map .octets

def Attributes.partsOf (pair : String × List String) : List Part :=
  .frame :: (pair.1 :: pair.2).map .text

def Modification.parts (change : Modification) : List Part :=
  .frame :: Attributes.partsOf (change.attr, change.values)

namespace Request

def parts : Request → List Part
  | bind request => .text request.name :: request.authentication.parts
  | unbind => []
  | search request => .text request.base :: request.filter.parts ++ request.attributes.map .text
  | modify request => .text request.dn :: request.changes.flatMap Modification.parts
  | add entry => .text entry.dn :: entry.attributes.pairs.flatMap Attributes.partsOf
  | delete dn => [.text dn]
  | modifyDn request =>
      .text request.dn :: .text request.newRdn :: request.newSuperior.toList.map .text
  | compare request => [.text request.dn, .text request.attr, .text request.value]
  | abandon _ => []
  | extended request => .text request.name :: request.value.toList.map .octets

end Request

def Control.parts (control : Control) : List Part :=
  .frame :: .text control.oid :: control.value.toList.map .octets

def Message.allParts (message : Message) : List Part :=
  message.request.parts ++ message.controls.flatMap Control.parts

def Message.size (message : Message) : Nat :=
  (message.allParts.map Part.size).sum

/-! Choices are spelled with the two digits of their tags, so every part is short. -/

theorem Octets.hexDigit_one : ∀ value < 16, (String.utf8EncodeChar (hexDigit value)).length = 1 := by
  decide

namespace Filter

theorem size_tagName (tag : UInt8) : Text.size (tagName tag) = 4 := by
  have octet := tag.toNat_lt
  have high := Octets.hexDigit_one (tag.toNat / 16) (by omega)
  have low := Octets.hexDigit_one (tag.toNat % 16) (by omega)
  simp only [Text.size, Text.utf8_eq_flatMap, toList_tagName, List.flatMap_cons, List.flatMap_nil,
    List.length_append, high, low]
  rfl

theorem isShort_of_hasForm {filter : Filter} (form : filter.HasForm) :
    ∀ part ∈ filter.parts, part.IsShort := by
  induction form with
  | present | undefined => exact List.forall_mem_singleton.2 trivial
  | equality | greaterOrEqual | lessOrEqual | substrings =>
    exact List.forall_mem_cons.2 ⟨trivial, List.forall_mem_cons.2 ⟨trivial, Part.isShort_texts _⟩⟩
  | and _ ih | or _ ih =>
    rw [parts, partsAll_eq_flatMap]
    exact List.forall_mem_cons.2 ⟨trivial, List.forall_mem_flatMap.2 ih⟩
  | not _ ih => exact List.forall_mem_cons.2 ⟨trivial, ih⟩
  | unknown => exact List.forall_mem_singleton.2 (Nat.le_of_eq (size_tagName _))

end Filter

theorem Attributes.isShort_partsOf (pair : String × List String) :
    ∀ part ∈ partsOf pair, part.IsShort :=
  List.forall_mem_cons.2 ⟨trivial, Part.isShort_texts _⟩

theorem Request.isShort_of_hasForm {request : Request} (form : request.HasForm) :
    ∀ part ∈ request.parts, part.IsShort := by
  cases request with
  | bind request =>
    refine List.forall_mem_cons.2 ⟨trivial, ?_⟩
    cases request.authentication with
    | simple password => exact List.forall_mem_singleton.2 trivial
    | sasl mechanism credentials =>
      exact List.forall_mem_cons.2
        ⟨trivial, List.forall_mem_cons.2 ⟨trivial, Part.isShort_optional credentials⟩⟩
  | unbind | abandon => exact List.forall_mem_nil _
  | search request =>
    exact List.forall_mem_cons.2 ⟨trivial, List.forall_mem_append.2
      ⟨Filter.isShort_of_hasForm form.2.2.1, Part.isShort_texts _⟩⟩
  | modify request =>
    exact List.forall_mem_cons.2 ⟨trivial, List.forall_mem_flatMap.2 fun change _ =>
      List.forall_mem_cons.2 ⟨trivial, Attributes.isShort_partsOf _⟩⟩
  | add entry =>
    exact List.forall_mem_cons.2
      ⟨trivial, List.forall_mem_flatMap.2 fun pair _ => Attributes.isShort_partsOf pair⟩
  | delete dn => exact Part.isShort_texts [dn]
  | modifyDn request =>
    exact Part.isShort_texts (request.dn :: request.newRdn :: request.newSuperior.toList)
  | compare request => exact Part.isShort_texts [request.dn, request.attr, request.value]
  | extended request => exact List.forall_mem_cons.2 ⟨trivial, Part.isShort_optional _⟩

theorem Message.isShort_of_hasForm {message : Message} (form : message.HasForm) :
    ∀ part ∈ message.allParts, part.IsShort :=
  List.forall_mem_append.2 ⟨Request.isShort_of_hasForm form.request,
    List.forall_mem_flatMap.2 fun _ _ =>
      List.forall_mem_cons.2 ⟨trivial, List.forall_mem_cons.2 ⟨trivial, Part.isShort_optional _⟩⟩⟩

def DecodeError.size : DecodeError → Nat
  | malformed reason => Text.size reason
  | refused refusal => Text.size refusal.reason

/-- The result of a decoding, whichever it is. Numbers and flags have a fixed size and are left
out. -/
def Message.resultSize : Except DecodeError Message → Nat
  | .ok message => message.size
  | .error error => error.size

end LdapService

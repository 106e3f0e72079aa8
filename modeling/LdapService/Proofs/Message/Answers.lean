import LdapService.Proofs.Message.Framing
import LdapService.Proofs.Message.Parts
import LdapService.Proofs.Text.OctetOrder

/-!
What a client reads from the frames of the service. The reader below takes every
element to its last octet, so an answer that is read holds nothing else. A frame
is good as long as the length of its body can be written at all.
-/

namespace LdapService

open Ber

namespace Ber.Reader

variable {α : Type}

def whole (reader : Reader Error α) (input : Octets) : Except Error α :=
  run input do
    let value ← reader
    finish
    return value

theorem whole_eq {reader : Reader Error α} {input : Octets} {value : α}
    (h : reader (input ++ []) = (.ok value, [])) : whole reader input = .ok value := by
  rw [List.append_nil] at h
  rw [whole, run, bind_of_ok h, bind_of_ok finish_nil]
  rfl

end Ber.Reader

namespace Frame

/-- The body of the message is shorter than 2^32 octets. -/
def BodyFits (frame : Octets) : Prop :=
  ∃ body, frame = Element.write Tag.sequence body ∧ Octets.Fits body

theorem bodyFits_write {body : Octets} :
    BodyFits (Element.write Tag.sequence body) ↔ Octets.Fits body := by
  refine ⟨?_, fun h => ⟨body, rfl, h⟩⟩
  rintro ⟨other, same, fits⟩
  have short := Length.length_write_le other.length
  have lengths := congrArg List.length same
  simp only [Element.write, List.cons_append, List.length_cons, List.length_append] at lengths
  unfold Octets.Fits at *
  by_cases long : body.length < 2 ^ 32
  · exact long
  · have five : (Length.write body.length).length = 5 := Length.length_write_long (by omega)
    omega

end Frame

namespace Client

structure Outcome where
  code : Int
  matchedDn : String
  diagnostic : String
  name : Option String := none
  value : Option Octets := none
  deriving DecidableEq

structure FoundEntry where
  dn : String
  attributes : List (String × List String)
  deriving DecidableEq

structure Received where
  id : Int
  tag : UInt8
  content : Outcome ⊕ FoundEntry
  deriving DecidableEq

def readOutcome : Reader Error Outcome := do
  let code ← Reader.integer Tag.enumerated
  let matchedDn ← Reader.text Tag.octetString
  let diagnostic ← Reader.text Tag.octetString
  let name ← Reader.optionalText Tag.Extended.responseName
  let value ← Reader.optional Tag.Extended.responseValue
  return { code, matchedDn, diagnostic, name, value }

def readPair (element : Element) : Except Error (String × List String) := do
  readAttribute (← element.expect Tag.sequence)

def readEntry : Reader Error FoundEntry := do
  let dn ← Reader.text Tag.octetString
  let attributes ← Reader.expect Tag.sequence
  return { dn, attributes := ← mapElements id readPair attributes }

def readContent (operation : Element) : Except Error (Outcome ⊕ FoundEntry) :=
  if operation.tag = Tag.searchEntry then .inr <$> Reader.whole readEntry operation.value
  else .inl <$> Reader.whole readOutcome operation.value

def readBody : Reader Error (Int × Element) := do
  let id ← Reader.integer Tag.integer
  return (id, ← Reader.element)

def read (frame : Octets) : Except Error Received := do
  let body ← Reader.whole (Reader.expect Tag.sequence) frame
  let (id, operation) ← Reader.whole readBody body
  return { id, tag := operation.tag, content := ← readContent operation }

/-- The frame is one message, whatever follows it, and a client gets this from it. -/
structure Gets (frame : Octets) (received : Received) : Prop where
  complete : ∀ limit rest, frame.length ≤ limit →
    Frame.length limit (frame ++ rest) = .ok (some frame.length)
  readBack : read frame = .ok received

theorem gets_message {id : Nat} (small : id < 2 ^ 32) {tag : UInt8} {value : Octets}
    {content : Outcome ⊕ FoundEntry} (single : isMultiOctetTag tag = false)
    (h : Frame.BodyFits (Response.message id (Element.write tag value)))
    (inside : Octets.Fits value → readContent ⟨tag, value⟩ = .ok content) :
    Gets (Response.message id (Element.write tag value)) ⟨id, tag, content⟩ := by
  have fits := Frame.bodyFits_write.1 h
  refine ⟨fun limit rest within => (Frame.isComplete_write fits within).length_append rest, ?_⟩
  have short := Element.fits_of_write fits.right
  have outer : Reader.whole (Reader.expect Tag.sequence)
      (Response.message id (Element.write tag value)) =
        .ok (writeInteger Tag.integer id ++ Element.write tag value) :=
    Reader.whole_eq (Reader.expect_write rfl fits [])
  have inner : Reader.whole readBody (writeInteger Tag.integer id ++ Element.write tag value) =
      .ok (id, ⟨tag, value⟩) := by
    refine Reader.whole_eq ?_
    rw [readBody, List.append_assoc, Reader.bind_of_ok (Reader.integer_write rfl (by omega) (by omega) _),
      Reader.bind_of_ok (Reader.element_write single short [])]
    rfl
  simp only [read, outer, inner, inside short, bind, Except.bind, pure, Except.pure]

theorem readOutcome_components (code : ResultCode) {matchedDn diagnostic : String}
    {name : Option String} {value : Option Octets}
    (h : Octets.Fits (Response.components code matchedDn diagnostic
      ++ Response.optionalPart Tag.Extended.responseName (name.map Text.utf8)
      ++ Response.optionalPart Tag.Extended.responseValue value)) :
    Reader.whole readOutcome (Response.components code matchedDn diagnostic
      ++ Response.optionalPart Tag.Extended.responseName (name.map Text.utf8)
      ++ Response.optionalPart Tag.Extended.responseValue value) =
        .ok { code := code.number, matchedDn, diagnostic, name, value } := by
  have texts := h.left.left
  have small : code.number < 128 := by cases code <;> decide
  refine Reader.whole_eq ?_
  simp only [Response.components, List.append_assoc] at texts ⊢
  rw [readOutcome, Reader.bind_of_ok (Reader.integer_write rfl (by omega) (by omega) _),
    Reader.bind_of_ok (Reader.text_write rfl texts.right.left _),
    Reader.bind_of_ok (Reader.text_write rfl texts.right.right _)]
  have other : (Response.optionalPart Tag.Extended.responseValue value ++ []).head? ≠
      some Tag.Extended.responseName := by
    rw [List.append_nil]
    exact Response.optionalPart_head (by decide) value
  rw [Reader.bind_of_ok (Response.optionalPart_text rfl h.left.right other),
    Reader.bind_of_ok (Response.optionalPart_value rfl h.right (by simp))]
  rfl

theorem gets_outcome {id : Nat} (small : id < 2 ^ 32) (kind : ResponseKind) (code : ResultCode)
    {matchedDn diagnostic : String} {name : Option String} {value : Option Octets}
    (h : Frame.BodyFits (Response.message id (Element.write kind.tag
      (Response.components code matchedDn diagnostic
        ++ Response.optionalPart Tag.Extended.responseName (name.map Text.utf8)
        ++ Response.optionalPart Tag.Extended.responseValue value)))) :
    Gets (Response.message id (Element.write kind.tag
      (Response.components code matchedDn diagnostic
        ++ Response.optionalPart Tag.Extended.responseName (name.map Text.utf8)
        ++ Response.optionalPart Tag.Extended.responseValue value)))
      ⟨id, kind.tag, .inl { code := code.number, matchedDn, diagnostic, name, value }⟩ := by
  have single : isMultiOctetTag kind.tag = false := by cases kind <;> rfl
  have notEntry : kind.tag ≠ Tag.searchEntry := by cases kind <;> decide
  refine gets_message small single h fun fits => ?_
  rw [readContent, if_neg notEntry, readOutcome_components code fits]
  rfl

def shown (typesOnly : Bool) (pair : String × List String) : String × List String :=
  (pair.1, if typesOnly then [] else pair.2)

theorem partialAttribute_shown (typesOnly : Bool) (pair : String × List String) :
    Response.partialAttribute false (shown typesOnly pair) =
      Response.partialAttribute typesOnly pair := rfl

theorem isElementOf_partialAttribute {pair : String × List String}
    (h : Octets.Fits (Response.partialAttribute false pair)) :
    IsElementOf readPair (Response.partialAttribute false pair) pair := by
  refine ⟨Tag.sequence, _, rfl, rfl, ?_⟩
  simp only [readPair, Element.expect, if_true, bind, Except.bind]
  exact readAttribute_write (Element.fits_of_write h)

theorem mapElements_shown (typesOnly : Bool) {pairs : List (String × List String)}
    (h : Octets.Fits (pairs.flatMap (Response.partialAttribute typesOnly))) :
    mapElements id readPair (pairs.flatMap (Response.partialAttribute typesOnly)) =
      .ok (pairs.map (shown typesOnly)) := by
  have same : pairs.flatMap (Response.partialAttribute typesOnly) =
      (pairs.map (shown typesOnly)).flatMap (Response.partialAttribute false) := by
    rw [List.flatMap_map]
    exact congrArg pairs.flatMap (funext fun pair => (partialAttribute_shown typesOnly pair).symm)
  rw [same] at h ⊢
  exact mapElements_flatMap (fun pair mem => isElementOf_partialAttribute (h.of_mem mem)) h

theorem gets_entry {id : Nat} (small : id < 2 ^ 32) (entry : Entry) (typesOnly : Bool)
    (h : Frame.BodyFits (Response.entry id entry typesOnly)) :
    Gets (Response.entry id entry typesOnly)
      ⟨id, Tag.searchEntry, .inr ⟨entry.dn, entry.attributes.pairs.map (shown typesOnly)⟩⟩ := by
  refine gets_message small rfl h fun fits => ?_
  have inside := Element.fits_of_write fits.right
  have content : Reader.whole readEntry (writeText Tag.octetString entry.dn
      ++ Element.write Tag.sequence
        (entry.attributes.pairs.flatMap (Response.partialAttribute typesOnly))) =
          .ok ⟨entry.dn, entry.attributes.pairs.map (shown typesOnly)⟩ := by
    refine Reader.whole_eq ?_
    rw [List.append_assoc, readEntry, Reader.bind_of_ok (Reader.text_write rfl fits.left _),
      Reader.bind_of_ok (Reader.expect_write rfl inside []), mapElements_shown typesOnly inside]
    rfl
  rw [readContent, if_pos rfl, content]
  rfl

theorem ascending_shown (typesOnly : Bool) (attributes : Attributes) :
    (attributes.pairs.map (shown typesOnly)).Pairwise fun first second =>
      Text.utf8 first.1 < Text.utf8 second.1 := by
  rw [List.pairwise_map]
  exact attributes.ascending.imp Text.utf8_lt

/-- Every frame of the service whose body has a length that can be written is one
complete message, and a client gets from it what went in. Attributes come in the
order of the octets of their names, their values in the order of the entry. -/
theorem frames_read_back (id : Nat) (small : id < 2 ^ 32) :
    (∀ kind code matchedDn diagnostic,
      Frame.BodyFits (Response.result id kind code matchedDn diagnostic) →
      Gets (Response.result id kind code matchedDn diagnostic)
        ⟨id, kind.tag, .inl { code := code.number, matchedDn, diagnostic }⟩) ∧
    (∀ code diagnostic name value,
      Frame.BodyFits (Response.extended id code diagnostic name value) →
      Gets (Response.extended id code diagnostic name value)
        ⟨id, ResponseKind.extended.tag,
          .inl { code := code.number, matchedDn := "", diagnostic, name, value }⟩) ∧
    (∀ code diagnostic,
      Frame.BodyFits (Response.notice code diagnostic) →
      Gets (Response.notice code diagnostic)
        ⟨0, ResponseKind.extended.tag,
          .inl {
            code := code.number, matchedDn := "", diagnostic
            name := some Response.noticeOfDisconnection }⟩) ∧
    (∀ entry typesOnly,
      Frame.BodyFits (Response.entry id entry typesOnly) →
      ∃ attributes,
        Gets (Response.entry id entry typesOnly)
          ⟨id, Tag.searchEntry, .inr ⟨entry.dn, attributes⟩⟩ ∧
        attributes = entry.attributes.pairs.map
          (fun pair => (pair.1, if typesOnly then [] else pair.2)) ∧
        attributes.Pairwise fun first second => Text.utf8 first.1 < Text.utf8 second.1) := by
  refine ⟨fun kind code matchedDn diagnostic h => ?_,
    fun code diagnostic name value h => gets_outcome small .extended code h,
    fun code diagnostic h => ?_,
    fun entry typesOnly h => ⟨_, gets_entry small entry typesOnly h, rfl, ?_⟩⟩
  · have bare : Response.result id kind code matchedDn diagnostic =
        Response.message id (Element.write kind.tag
          (Response.components code matchedDn diagnostic
            ++ Response.optionalPart Tag.Extended.responseName (Option.map Text.utf8 none)
            ++ Response.optionalPart Tag.Extended.responseValue none)) := by
      simp [Response.result, Response.optionalPart]
    rw [bare] at h ⊢
    exact gets_outcome small kind code h
  · have zero : (0 : Nat) < 2 ^ 32 := by decide
    exact gets_outcome zero .extended code h
  · exact ascending_shown typesOnly entry.attributes

/-- An entry with two attributes, one of them without values, and an extended answer
with both of its optional parts. -/
theorem frames_read_back_sample :
    let entry : Entry := ⟨"uid=ann", ⟨[("cn", ["Ann", "A"]), ("mail", [])], by decide⟩⟩
    let extended := Response.extended 2 .success "" (some "1.3.6") (some [7])
    2 < 2 ^ 32 ∧
    Frame.BodyFits (Response.entry 2 entry false) ∧ Frame.BodyFits extended ∧
    read (Response.entry 2 entry false) =
      .ok ⟨2, 0x64, .inr ⟨"uid=ann", [("cn", ["Ann", "A"]), ("mail", [])]⟩⟩ ∧
    read extended =
      .ok ⟨2, 0x78, .inl {
        code := 0, matchedDn := "", diagnostic := "", name := some "1.3.6", value := some [7] }⟩ := by
  intro entry extended
  have entryFits : Frame.BodyFits (Response.entry 2 entry false) :=
    Frame.bodyFits_write.2 (by unfold Octets.Fits; decide +kernel)
  have extendedFits : Frame.BodyFits extended :=
    Frame.bodyFits_write.2 (by unfold Octets.Fits; decide +kernel)
  obtain ⟨-, readExtended, -, readEntry⟩ := frames_read_back 2 (by decide)
  obtain ⟨attributes, gets, rfl, -⟩ := readEntry entry false entryFits
  have gets' := readExtended .success "" (some "1.3.6") (some [7]) extendedFits
  exact ⟨by decide, entryFits, extendedFits, gets.readBack, gets'.readBack⟩

end Client

end LdapService

import LdapService.Message.Decode
import LdapService.Proofs.Ber.Contents
import LdapService.Proofs.Message.Parts

/-!
The envelope of a message from its three parts. Each part is read by itself: the number, the
operation as one element, and the controls from what is left. The first of them that is wrong
decides, and what the operation holds is not looked at.
-/

namespace LdapService

open Ber

namespace Ber

/-- One complete element, in whatever form of the basic encoding rules. The forms that the
protocol rules out are known by their first octets, so what these have behind is left open. -/
inductive IsWhole : Octets → Prop
  | definite (encoded : Encoded) : IsWhole encoded.octets
  | multiOctetTag {tag : UInt8} (multi : isMultiOctetTag tag = true) (more : Octets) :
      IsWhole (tag :: more)
  | indefinite {tag : UInt8} (single : isMultiOctetTag tag = false) (more : Octets) :
      IsWhole (tag :: 0x80 :: more)
  | longLength {tag first : UInt8} (single : isMultiOctetTag tag = false) (long : 0x84 < first)
      (more : Octets) : IsWhole (tag :: first :: more)

def Yields (octets : Octets) (outcome : Except Error Element) : Prop :=
  ∀ rest, Element.read (octets ++ rest) = outcome.map (·, rest)

theorem Encoded.yields (encoded : Encoded) : Yields encoded.octets (.ok encoded.element) :=
  encoded.read_octets

theorem IsWhole.exists_yields {octets : Octets} (whole : IsWhole octets) :
    ∃ outcome, Yields octets outcome := by
  cases whole with
  | definite encoded => exact ⟨_, encoded.yields⟩
  | multiOctetTag multi more =>
    refine ⟨.error .multiOctetTag, fun rest => ?_⟩
    simp only [List.cons_append, Element.read, multi, if_true]
    rfl
  | indefinite single more =>
    refine ⟨.error .indefiniteLength, fun rest => ?_⟩
    simp only [List.cons_append, Element.read, single]
    rfl
  | @longLength tag first single long more =>
    refine ⟨.error (.lengthTooLarge (first.toNat - 0x80)), fun rest => ?_⟩
    have large : 0x84 < first.toNat := UInt8.lt_iff_toNat_lt.1 long
    have notShort : ¬first < 0x80 := by
      rw [UInt8.lt_iff_toNat_lt]
      change ¬first.toNat < 0x80
      omega
    have definite : first ≠ 0x80 := by
      rintro rfl
      exact absurd large (by decide)
    have many : 4 < first.toNat - 0x80 := by omega
    simp only [List.cons_append, Element.read, single, Length.read, notShort, definite, many,
      if_true, if_false]
    rfl

theorem Reader.element_of_yields {octets : Octets} {found : Element}
    (yields : Yields octets (.ok found)) (rest : Octets) :
    Reader.element (octets ++ rest) = (.ok found, rest) := by
  rw [Reader.element, yields]
  rfl

theorem Reader.element_of_yields_error {octets : Octets} {error : Error}
    (yields : Yields octets (.error error)) (rest : Octets) :
    Reader.element (octets ++ rest) = (.error error, octets ++ rest) := by
  rw [Reader.element, yields]
  rfl

end Ber

namespace Message

theorem encoding_of_ok {α : Type} {reader : Reader Ber.Error α} {input rest : Octets} {value : α}
    (h : reader input = (.ok value, rest)) :
    Envelope.ofBody.encoding reader input = (.ok value, rest) :=
  Reader.mapError_of_ok h _

theorem encoding_of_error {α : Type} {reader : Reader Ber.Error α} {input rest : Octets}
    {error : Ber.Error} (h : reader input = (.error error, rest)) :
    Envelope.ofBody.encoding reader input = (.error (.encoding error), rest) := by
  rw [Envelope.ofBody.encoding, Reader.mapError, h]
  rfl

namespace Envelope

def controlsOf (input : Octets) : Except Ber.Error (List Control) :=
  Reader.run input do
    let found ← Reader.optional Tag.controls
    let controls ← Reader.ofExcept (Control.listOf (found.getD []))
    Reader.finish
    return controls

def assemble (number : Except Ber.Error Int) (operation : Except Ber.Error Element)
    (controls : Except Ber.Error (List Control)) : Except Malformation Envelope :=
  match number with
  | .error error => .error (.encoding error)
  | .ok number =>
      match natBelow? (maxInt + 1) number with
      | none => .error (.idOutOfRange number)
      | some id =>
          match operation, controls with
          | .error error, _ => .error (.encoding error)
          | .ok _, .error error => .error (.encoding error)
          | .ok operation, .ok controls => .ok { id, operation, controls }

theorem assemble_of_below {number : Int} {id : Nat} (below : natBelow? (maxInt + 1) number = some id)
    (operation : Element) (controls : List Control) :
    assemble (.ok number) (.ok operation) (.ok controls) = .ok { id, operation, controls } := by
  simp only [assemble, below]

theorem assemble_eq_ok_iff {number : Except Ber.Error Int} {operation : Except Ber.Error Element}
    {controls : Except Ber.Error (List Control)} {envelope : Envelope} :
    assemble number operation controls = .ok envelope ↔
      number = .ok envelope.id ∧ envelope.id ≤ maxInt ∧ operation = .ok envelope.operation ∧
        controls = .ok envelope.controls := by
  obtain ⟨id, operation', controls'⟩ := envelope
  constructor
  · intro h
    unfold assemble at h
    split at h
    · cases h
    · split at h
      · cases h
      · next below =>
        split at h
        · cases h
        · cases h
        · cases h
          obtain ⟨rfl, low⟩ := natBelow?_eq_some_iff.1 below
          exact ⟨rfl, Nat.le_of_lt_add_one low, rfl, rfl⟩
  · rintro ⟨rfl, low, rfl, rfl⟩
    exact assemble_of_below (natBelow?_eq_some_iff.2 ⟨rfl, Nat.lt_add_one_of_le low⟩) _ _

def numberOf (element : Element) : Except Ber.Error Int :=
  Reader.expectation Tag.integer element >>= Integer.read

theorem takesOne_number :
    Reader.TakesOne (ofBody.encoding (Reader.integer Tag.integer)) fun element =>
      (numberOf element).mapError .encoding :=
  (Reader.takesOne_integer Tag.integer).mapError _

theorem ofBody_eq (number : Encoded) {operation : Octets} {outcome : Except Ber.Error Element}
    (yields : Yields operation outcome) (rest : Octets) :
    ofBody (number.octets ++ (operation ++ rest)) =
      assemble (numberOf number.element) outcome (controlsOf rest) := by
  unfold ofBody Reader.run
  cases numbered : numberOf number.element with
  | error error =>
    rw [takesOne_number.bind_of_error (by rw [numbered]; rfl)]
    rfl
  | ok found =>
    have judged : (numberOf number.element).mapError Malformation.encoding = .ok found := by
      rw [numbered]
      rfl
    rw [takesOne_number.bind_of_ok judged]
    cases checked : natBelow? (maxInt + 1) found with
    | none =>
      simp only [assemble, checked]
      rfl
    | some id =>
      simp only [assemble, checked]
      cases outcome with
      | error error =>
        rw [Reader.bind_of_error (encoding_of_error (Reader.element_of_yields_error yields rest))]
      | ok element =>
        rw [Reader.bind_of_ok (encoding_of_ok (Reader.element_of_yields yields rest)), controlsOf,
          Reader.run]
        cases there : Reader.optional Tag.controls rest with
        | mk outcome left =>
          cases outcome with
          | error error =>
            rw [Reader.bind_of_error (encoding_of_error there), Reader.bind_of_error there]
          | ok found =>
            rw [Reader.bind_of_ok (encoding_of_ok there), Reader.bind_of_ok there]
            cases Control.listOf (found.getD []) with
            | error error => rfl
            | ok controls =>
              cases left <;> rfl

end Envelope

theorem ofEnvelope_eq_ok_iff {envelope : Envelope} {message : Message} :
    ofEnvelope envelope = .ok message ↔
      Request.ofElement envelope.operation = .ok message.request ∧
        (message.request.kind.response? = none ∨ envelope.controls.find? (·.critical) = none) ∧
        message.id = envelope.id ∧ message.controls = envelope.controls := by
  obtain ⟨id, request, controls⟩ := message
  constructor
  · intro h
    unfold ofEnvelope at h
    simp only at h
    split at h
    · cases h
    · cases h
    · cases h
    · next found read =>
      split at h
      · cases h
      · next passes =>
        cases h
        refine ⟨read, ?_, rfl, rfl⟩
        cases response : request.kind.response? with
        | none => exact .inl rfl
        | some kind =>
          refine .inr (Option.eq_none_iff_forall_ne_some.2 fun control critical => ?_)
          exact passes kind control response critical
  · rintro ⟨read, passes, rfl, rfl⟩
    unfold ofEnvelope
    simp only [read]
    rcases passes with unanswered | uncritical
    · simp only [unanswered]
    · simp only [uncritical]
      cases request.kind.response? <;> rfl

end Message

end LdapService

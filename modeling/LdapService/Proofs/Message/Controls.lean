import LdapService.Proofs.Message.Accepted
import LdapService.Proofs.Message.Boundary
import LdapService.Proofs.Session.Upholds

/-!
Controls never change what an operation means. One operation, whatever element it is, in two
messages that differ in the controls behind it: it is read as the same request, or it fails for
the same reason. A critical control turns a request that would be answered away, and then the
answer is of the kind that the request would have had.
-/

namespace LdapService

open Ber

namespace Ber.Integer

theorem eq_of_read_write {value found : Int} (h : read (write value) = .ok found) :
    found = value := by
  have same := foldl_writeBefore [] value
  unfold write at h
  generalize writeBefore [] value = octets at h same
  cases octets with
  | nil => cases h
  | cons first rest =>
    simp only [read] at h
    split at h
    · cases h
    · cases h
      exact same

end Ber.Integer

namespace Message

def parts (id : Int) (operation : Octets) (controls : Option (List Control)) : Octets :=
  writeInteger Tag.integer id ++ (operation ++
    Response.optionalPart Tag.controls (controls.map fun list => list.flatMap Control.write))

def layOut (id : Int) (operation : Octets) (controls : Option (List Control)) : Octets :=
  Element.write Tag.sequence (parts id operation controls)

theorem fits_parts_none {id : Int} {operation : Octets} {controls : Option (List Control)}
    (fits : Octets.Fits (parts id operation controls)) :
    Octets.Fits (parts id operation none) := by
  have front : ∃ rest, parts id operation controls = parts id operation none ++ rest :=
    ⟨_, by simp only [parts, Option.map_none, Response.optionalPart, List.append_nil,
      List.append_assoc]; rfl⟩
  obtain ⟨rest, front⟩ := front
  rw [front] at fits
  exact fits.left

theorem outer_write {body : Octets} (fits : Octets.Fits body) :
    outer (Element.write Tag.sequence body) = .ok body := by
  rw [outer_eq_ok_iff, ← List.append_nil (Element.write Tag.sequence body)]
  exact Element.read_write rfl fits []

theorem Envelope.assemble_controls (number : Except Ber.Error Int)
    (operation : Except Ber.Error Element) (controls : List Control) :
    assemble number operation (.ok controls) =
      (assemble number operation (.ok [])).map fun envelope => { envelope with controls } := by
  cases number with
  | error error => rfl
  | ok number =>
    simp only [assemble]
    cases natBelow? (maxInt + 1) number with
    | none => rfl
    | some id => cases operation <;> rfl

/-- What controls make of a message that was read without them. -/
def underControls (controls : List Control) (message : Message) : Except DecodeError Message :=
  match message.request.kind.response?, controls.find? (·.critical) with
  | some response, some control =>
      .error (.ofRejection message.id response (.criticalControl control.oid))
  | _, _ => .ok { message with controls }

/-- A request is understood before the controls are looked at. -/
theorem ofEnvelope_controls (id : Nat) (operation : Element) (controls : List Control) :
    ofEnvelope { id, operation, controls } =
      ofEnvelope { id, operation, controls := [] } >>= underControls controls := by
  unfold ofEnvelope
  simp only [List.find?_nil]
  cases Request.ofElement operation with
  | error fault =>
    cases fault with
    | rejected cause => rfl
    | encoding error => cases error <;> rfl
  | ok request =>
    cases response : request.kind.response? with
    | none => simp only [bind, Except.bind, underControls, response]
    | some kind =>
      cases critical : controls.find? (·.critical) <;>
        simp only [bind, Except.bind, underControls, response, critical]

theorem decode_layOut {id : Int} {operation : Octets}
    {outcome : Except Ber.Error Element} (yields : Yields operation outcome)
    (controls : Option (List Control)) (fits : Octets.Fits (parts id operation controls)) :
    decode (layOut id operation controls) =
      match Envelope.assemble (Integer.read (Integer.write id)) outcome
        (.ok (controls.getD [])) with
      | .error cause => .error (.ofMalformation cause)
      | .ok envelope => ofEnvelope envelope := by
  let number := Encoded.written Tag.integer rfl (Element.fits_of_write fits.left)
  have written : number.octets = Element.write Tag.integer (Integer.write id) := rfl
  have numbered : Envelope.numberOf number.element = Integer.read (Integer.write id) := rfl
  have assembled : Envelope.ofBody (parts id operation controls) =
      Envelope.assemble (Integer.read (Integer.write id)) outcome (.ok (controls.getD [])) := by
    rw [parts, writeInteger, ← written, Envelope.ofBody_eq number yields, numbered,
      controlsOf_written controls fits.right.right]
  rw [layOut, decode_eq, outer_write fits]
  cases settled : Envelope.assemble (Integer.read (Integer.write id)) outcome
      (.ok (controls.getD [])) <;>
    simp only [ofBody, assembled, settled]

theorem decode_layOut_none {operation : Octets} (whole : IsWhole operation) {id : Int}
    (fits : Octets.Fits (parts id operation none)) {message : Message}
    (h : decode (layOut id operation none) = .ok message) :
    (message.id : Int) = id ∧ message.controls = [] := by
  obtain ⟨outcome, yields⟩ := whole.exists_yields
  rw [decode_layOut yields none fits, Option.getD_none] at h
  cases assembled : Envelope.assemble (Integer.read (Integer.write id)) outcome (.ok []) with
  | error cause =>
    rw [assembled] at h
    cases h
  | ok envelope =>
    obtain ⟨number, -, -, bare⟩ := Envelope.assemble_eq_ok_iff.1 assembled
    rw [assembled] at h
    obtain ⟨-, -, id', controls⟩ := ofEnvelope_eq_ok_iff.1 h
    rw [id', controls, ← Integer.eq_of_read_write number]
    exact ⟨rfl, (Except.ok.inj bare).symm⟩

/-- The controls come last: what is wrong before them is told first. -/
theorem decode_layOut_some {operation : Octets} (whole : IsWhole operation) {id : Int}
    {controls : List Control} (fits : Octets.Fits (parts id operation (some controls))) :
    decode (layOut id operation (some controls)) =
      decode (layOut id operation none) >>= underControls controls := by
  obtain ⟨outcome, yields⟩ := whole.exists_yields
  rw [decode_layOut yields none (fits_parts_none fits), decode_layOut yields (some controls) fits,
    Option.getD_none, Option.getD_some, Envelope.assemble_controls _ _ controls]
  cases assembled : Envelope.assemble (Integer.read (Integer.write id)) outcome (.ok []) with
  | error cause => rfl
  | ok envelope =>
    obtain ⟨id, operation, controls'⟩ := envelope
    obtain ⟨-, -, -, bare⟩ := Envelope.assemble_eq_ok_iff.1 assembled
    obtain rfl := Except.ok.inj bare
    exact ofEnvelope_controls id operation controls

theorem underControls_of_blocked {controls : List Control} {message : Message}
    (blocked : ¬Passes message.request controls) :
    ∃ response, message.request.kind.response? = some response ∧
      ∃ control ∈ controls, control.critical = true ∧
        underControls controls message =
          .error (.ofRejection message.id response (.criticalControl control.oid)) := by
  cases answered : message.request.kind.response? with
  | none => exact absurd (passes_iff.2 (.inl answered)) blocked
  | some response =>
    cases found : controls.find? (·.critical) with
    | none => exact absurd (passes_iff.2 (.inr found)) blocked
    | some control =>
      have critical : control.critical = true := by simpa using List.find?_some found
      refine ⟨response, rfl, control, List.mem_of_find?_eq_some found, critical, ?_⟩
      simp only [underControls, answered, found]

theorem underControls_of_passes {controls : List Control} {message : Message}
    (passes : Passes message.request controls) :
    underControls controls message = .ok { message with controls } := by
  rcases passes_iff.1 passes with unanswered | uncritical
  · simp only [underControls, unanswered]
  · simp only [underControls, uncritical]
    cases message.request.kind.response? <;> rfl

theorem takeMessage_of_error {frame : Octets} {error : DecodeError}
    (refused : decode frame = .error error) {σ : Type} (handler handler' : Handler σ) (now : Nat)
    (session : Session σ) :
    session.takeMessage handler now frame = session.takeMessage handler' now frame ∧
      ¬(session.takeMessage handler now frame).IsBusy := by
  have refuses (handler : Handler σ) : session.takeMessage handler now frame =
      Session.reject error { session with connection.stage := .decoding } := by
    simp only [Session.takeMessage, refused]
  rw [refuses handler, refuses handler']
  exact ⟨rfl, Session.reject_quiet _ _⟩

/-- A message with controls is the message without them, and the controls. Only a critical one
before a request that gets an answer makes a difference: it is refused with the answer of its
kind, and no handler ever sees it. Whatever is wrong without the controls is wrong with them,
for the same reason. -/
theorem controls_keep_meaning {operation : Octets} (whole : IsWhole operation) (id : Int)
    (controls : List Control) (fits : (layOut id operation (some controls)).length < 2 ^ 32) :
    (∀ message, decode (layOut id operation none) = .ok message →
      (message.id : Int) = id ∧ message.controls = [] ∧
      (Passes message.request controls →
        decode (layOut id operation (some controls)) = .ok { message with controls }) ∧
      (¬Passes message.request controls →
        ∃ response, message.request.kind.response? = some response ∧
        ∃ control ∈ controls, control.critical = true ∧
          decode (layOut id operation (some controls)) = .error (.refused
            ⟨message.id, response, .unavailableCriticalExtension,
              s!"Critical control {control.oid} is not supported"⟩) ∧
          ∀ {σ : Type} (handler handler' : Handler σ) (now : Nat) (session : Session σ),
            let frame := layOut id operation (some controls)
            session.takeMessage handler now frame = session.takeMessage handler' now frame ∧
              ¬(session.takeMessage handler now frame).IsBusy)) ∧
    ∀ error, decode (layOut id operation none) = .error error →
      decode (layOut id operation (some controls)) = .error error := by
  have inside := Element.fits_of_write fits
  rw [decode_layOut_some whole inside]
  constructor
  · intro message accepted
    obtain ⟨number, bare⟩ := decode_layOut_none whole (fits_parts_none inside) accepted
    have decoded : decode (layOut id operation (some controls)) = underControls controls message := by
      rw [decode_layOut_some whole inside, accepted]
      rfl
    rw [accepted]
    refine ⟨number, bare, fun passes => underControls_of_passes passes, fun blocked => ?_⟩
    obtain ⟨response, answered, control, mem, critical, refused⟩ := underControls_of_blocked blocked
    exact ⟨response, answered, control, mem, critical, refused,
      takeMessage_of_error (decoded.trans refused)⟩
  · intro error failed
    rw [failed]
    rfl

/-- A delete under a length field of two octets, and a critical control behind it. -/
theorem controls_keep_meaning_delete :
    let operation : Octets := [0x4a, 0x81, 0x01, 0x78]
    let control : Control := { oid := "1.2.3", critical := true, value := some [] }
    IsWhole operation ∧ (layOut 7 operation (some [control])).length < 2 ^ 32 ∧
      decode (layOut 7 operation none) = .ok { id := 7, request := .delete "x" } ∧
      decode (layOut 7 operation (some [control])) = .error (.refused
        ⟨7, .delete, .unavailableCriticalExtension, "Critical control 1.2.3 is not supported"⟩) := by
  intro operation control
  have field : Length.IsField ⟨1, 2⟩ [0x81, 0x01] :=
    ⟨rfl, fun rest => Length.read_long rest
      (show (0x81 : UInt8).toNat = 0x80 + ([0x01] : Octets).length from rfl) (by decide) (by decide)⟩
  let encoded : Encoded := ⟨0x4a, [0x81, 0x01], [0x78], rfl, field⟩
  have whole : IsWhole operation := .definite encoded
  have short : (layOut 7 operation (some [control])).length < 2 ^ 32 := by decide +kernel
  have plain : decode (layOut 7 operation none) = .ok { id := 7, request := .delete "x" } := by
    have number : Integer.read (Integer.write 7) = .ok 7 :=
      Integer.read_write (by decide) (by decide)
    have name : Reader.textOf [0x78] = .ok "x" := Reader.textOf_utf8 "x"
    have yields : Yields operation (.ok ⟨0x4a, [0x78]⟩) := encoded.yields
    rw [decode_layOut yields none (by decide +kernel), number]
    refine ofEnvelope_eq_ok_iff.2 ⟨?_, .inr rfl, rfl, rfl⟩
    change (liftM (Reader.textOf [0x78]) : Except Fault String) >>= _ = _
    rw [name]
    rfl
  obtain ⟨accepted, -⟩ := controls_keep_meaning whole 7 [control] short
  obtain ⟨-, -, -, refuses⟩ := accepted _ plain
  have blocked : ¬Passes (.delete "x") [control] := by
    rintro (unbind | abandon | uncritical)
    · cases unbind
    · cases abandon
    · cases uncritical control List.mem_cons_self
  obtain ⟨response, answered, found, mem, -, refused, -⟩ := refuses blocked
  cases answered
  obtain rfl := List.mem_singleton.1 mem
  exact ⟨whole, short, plain, refused⟩

end Message

end LdapService

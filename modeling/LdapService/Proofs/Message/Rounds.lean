import LdapService.Proofs.Ber.Rounds
import LdapService.Proofs.Message.Proportion

/-!
The rounds of the loops that a message is read with. Every decoder that goes through a loop, or
calls one that does, is written once more with its rounds noted, and is shown to come to the same;
the others stand in it as they are.
-/

namespace LdapService

open Ber

/-! Lists of texts and of attributes. -/

def tracedTexts (input : Octets) : Traced Ber.Error (List String) :=
  mapRounds id (fun element => .of do Reader.textOf (← element.expect Tag.octetString)) input

def tracedAttribute (value : Octets) : Traced Ber.Error (String × List String) := do
  let (attr, values) ← .of (Reader.run value (Reader.textAnd Tag.set))
  let values ← tracedTexts values
  return (attr, values)

theorem tracedTexts_follows (input : Octets) :
    (tracedTexts input).Follows (readTexts input) input.length :=
  mapRounds_follows (fun element => .last _ element.value.length) input

theorem tracedAttribute_follows (value : Octets) :
    (tracedAttribute value).Follows (readAttribute value) value.length := by
  refine .of_bind (textAnd_guarantees value Tag.set) fun found taken => ?_
  exact ((tracedTexts_follows found.2).bind fun values => .last _ 0).mono (by omega)

/-! Filters. -/

namespace SubstringsAssertion

def traced (value : Octets) : Traced Fault SubstringsAssertion := do
  let (attr, segments) ← .of (liftM (Reader.run value (Reader.textAnd Tag.sequence)))
  let assertion ←
    foldRounds Fault.encoding (fun assertion found => .of (addSegment assertion found)) { attr }
      segments
  .of do
    if segments.isEmpty then reject .emptySubstrings
    return assertion

theorem traced_follows (value : Octets) :
    (traced value).Follows (ofValue value) value.length := by
  refine .of_bind (guarantees_lift (textAnd_guarantees value Tag.sequence)) fun found taken => ?_
  have segments : (foldRounds Fault.encoding (fun assertion found => .of (addSegment assertion found))
      { attr := found.1 } found.2).Follows
      (foldElements Fault.encoding addSegment { attr := found.1 } found.2) found.2.length :=
    foldRounds_follows (fun _ element => .last _ element.value.length) _ _
  exact (segments.bind fun assertion => .last _ 0).mono (by omega)

end SubstringsAssertion

namespace Filter

def traced : (levels : Nat) → Element → Traced Fault Filter
  | 0, _ => .of (reject .filterTooDeep)
  | levels + 1, ⟨tag, value⟩ =>
      if tag = Tag.Filter.and then Filter.and <$> mapRounds Fault.encoding (traced levels) value
      else if tag = Tag.Filter.or then Filter.or <$> mapRounds Fault.encoding (traced levels) value
      else if tag = Tag.Filter.not then
        Tracing.run value do
          let child ← traced levels (← Reader.element)
          Tracing.plain do
            unless ← Reader.atEnd do Reader.fail (.rejected .negationOfSeveral)
            return .not child
      else if tag = Tag.Filter.substrings then
        Filter.substrings <$> SubstringsAssertion.traced value
      -- there is no loop in any other choice
      else .of (ofElement (levels + 1) ⟨tag, value⟩)

theorem traced_follows (levels : Nat) (element : Element) :
    (traced levels element).Follows (ofElement levels element) element.value.length := by
  induction levels generalizing element with
  | zero => exact .last _ _
  | succ levels ih =>
    obtain ⟨tag, value⟩ := element
    rw [traced]
    split
    · next isAnd =>
      obtain rfl : tag = Tag.Filter.and := isAnd
      rw [ofElement_and]
      exact (mapRounds_follows ih value).map Filter.and
    split
    · next isOr =>
      obtain rfl : tag = Tag.Filter.or := isOr
      rw [ofElement_or]
      exact (mapRounds_follows ih value).map Filter.or
    split
    · next isNot =>
      obtain rfl : tag = Tag.Filter.not := isNot
      change Traced.Follows _ _ value.length
      refine Tracing.run_follows ?_
      refine Tracing.plain_bind (takes_lift (Reader.takes_element value)) fun inner rest taken => ?_
      exact Tracing.traced_bind (ih inner) (by omega) fun child => Tracing.last _ _ 0
    split
    · next isSubstrings =>
      obtain rfl : tag = Tag.Filter.substrings := isSubstrings
      exact (SubstringsAssertion.traced_follows value).map Filter.substrings
    · exact .last _ _

end Filter

/-! Requests. -/

section Numbers

variable {α β : Type} {input : Octets} {room : Nat} {tag : UInt8} {check : Int → Option α}
  {cause : Int → Rejection} {next : α → Tracing Fault β} {next' : α → Reader Fault β}

theorem number_bind
    (goesOn : ∀ found rest, rest.length ≤ input.length → (next found).Follows (next' found) rest room) :
    Tracing.Follows (ε := Fault) (do
      let number ← Reader.integer tag
      next (← requireSome (check number) (cause number)))
      (do
        let number ← Reader.integer tag
        next' (← requireSome (check number) (cause number))) input room := by
  refine Tracing.plain_bind (takes_lift (Reader.takes_integer input tag)) fun number rest word => ?_
  cases check number with
  | none => exact Traced.Follows.last (.error (Fault.rejected (cause number))) room
  | some found => exact goesOn found rest word.2

end Numbers

namespace SearchRequest

def traced (value : Octets) : Traced Fault SearchRequest :=
  Tracing.run value do
    let base ← Reader.text Tag.octetString
    let scope ← Reader.integer Tag.enumerated
    let scope ← requireSome (Scope.ofNumber? scope) (.invalidScope scope)
    let deref ← Reader.integer Tag.enumerated
    let deref ← requireSome (DerefAliases.ofNumber? deref) (.invalidDerefAliases deref)
    let sizeLimit ← readLimit .size (← Reader.integer Tag.integer)
    let timeLimit ← readLimit .time (← Reader.integer Tag.integer)
    let typesOnly ← Reader.boolean
    let filter ← Filter.traced Filter.maxDepth (← Reader.element)
    let attributes ← (tracedTexts (← Reader.expect Tag.sequence)).mapError Fault.encoding
    Tracing.plain do
      Reader.finish
      return { base, scope, deref, sizeLimit, timeLimit, typesOnly, filter, attributes }

theorem traced_follows (value : Octets) :
    (traced value).Follows (ofValue value) value.length := by
  refine Tracing.run_follows ?_
  refine Tracing.plain_bind (takes_lift (Reader.takes_text value _)) fun base rest taken => ?_
  refine number_bind fun scope rest₁ taken₁ => ?_
  refine number_bind fun deref rest₂ taken₂ => ?_
  refine number_bind fun sizeLimit rest₃ taken₃ => ?_
  refine number_bind fun timeLimit rest₄ taken₄ => ?_
  refine Tracing.plain_bind (takes_lift (Reader.takes_boolean _)) fun typesOnly rest₅ taken₅ => ?_
  refine Tracing.plain_bind (takes_lift (Reader.takes_element rest₅)) fun element rest₆ taken₆ => ?_
  have shared : element.value.length + rest₆.length ≤ value.length := by omega
  refine Tracing.traced_bind (Filter.traced_follows _ element) shared fun filter => ?_
  refine Tracing.plain_bind (takes_lift (Reader.takes_expect rest₆ _)) fun list rest₇ taken₇ => ?_
  exact Tracing.traced_bind ((tracedTexts_follows list).mapError Fault.encoding) (by omega)
    fun attributes => Tracing.last _ _ 0

end SearchRequest

namespace ModifyRequest

def tracedChange (element : Element) : Traced Fault Modification := do
  let content ← .of (liftM (element.expect Tag.sequence))
  let (operation, attribution) ← Tracing.run content do
    let number ← Reader.integer Tag.enumerated
    let operation ←
      requireSome (ModifyOperation.ofNumber? number) (.invalidModifyOperation number)
    let (attr, values) ← (tracedAttribute (← Reader.expect Tag.sequence)).mapError Fault.encoding
    Tracing.plain do
      Reader.finish
      return (operation, attr, values)
  return { operation, attr := attribution.1, values := attribution.2 }

def traced (value : Octets) : Traced Fault ModifyRequest := do
  let (dn, changes) ← .of (liftM (Reader.run value (Reader.textAnd Tag.sequence)))
  let changes ← mapRounds Fault.encoding tracedChange changes
  return { dn, changes }

theorem tracedChange_follows (element : Element) :
    (tracedChange element).Follows (readChange element) element.value.length := by
  refine .of_bind (guarantees_lift (element.expect_guarantees _)) fun content same => ?_
  subst same
  refine Traced.Follows.bind (Tracing.run_follows ?_) fun found => .last _ 0
  refine number_bind fun operation rest taken => ?_
  refine Tracing.plain_bind (takes_lift (Reader.takes_expect rest _)) fun content rest₁ taken₁ => ?_
  exact Tracing.traced_bind ((tracedAttribute_follows content).mapError Fault.encoding) (by omega)
    fun pair => Tracing.last _ _ 0

theorem traced_follows (value : Octets) :
    (traced value).Follows (ofValue value) value.length := by
  refine .of_bind (guarantees_lift (textAnd_guarantees value Tag.sequence)) fun found taken => ?_
  exact ((mapRounds_follows tracedChange_follows found.2).bind fun changes => .last _ 0).mono
    (by omega)

end ModifyRequest

namespace Entry

def traced (value : Octets) : Traced Fault Entry := do
  let (dn, attributes) ← .of (liftM (Reader.run value (Reader.textAnd Tag.sequence)))
  let pairs ← mapRounds Fault.encoding (fun element => do
    let content ← .of (liftM (element.expect Tag.sequence))
    (tracedAttribute content).mapError Fault.encoding) attributes
  return { dn, attributes := .ofPairs pairs }

theorem traced_follows (value : Octets) :
    (traced value).Follows (ofValue value) value.length := by
  refine .of_bind (guarantees_lift (textAnd_guarantees value Tag.sequence)) fun found taken => ?_
  refine (Traced.Follows.bind (mapRounds_follows (fun element => ?_) found.2) fun pairs =>
    .last _ 0).mono (by omega)
  refine .of_bind (guarantees_lift (element.expect_guarantees _)) fun content same => ?_
  subst same
  exact (tracedAttribute_follows element.value).mapError Fault.encoding

end Entry

namespace Request

def tracedValue (kind : RequestKind) (value : Octets) : Traced Fault Request :=
  match kind with
  | .search => .search <$> SearchRequest.traced value
  | .modify => .modify <$> ModifyRequest.traced value
  | .add => .add <$> Entry.traced value
  -- no other kind has a loop
  | _ => .of (ofValue kind value)

def traced (element : Element) : Traced Fault Request :=
  match RequestKind.ofTag? element.tag with
  | some kind => tracedValue kind element.value
  | none => .of (reject (.unsupportedOperation element.tag))

theorem tracedValue_follows (kind : RequestKind) (value : Octets) :
    (tracedValue kind value).Follows (ofValue kind value) value.length := by
  cases kind with
  | search => exact (SearchRequest.traced_follows value).map Request.search
  | modify => exact (ModifyRequest.traced_follows value).map Request.modify
  | add => exact (Entry.traced_follows value).map Request.add
  | _ => exact .last _ _

theorem traced_follows (element : Element) :
    (traced element).Follows (ofElement element) element.value.length := by
  unfold traced ofElement
  cases RequestKind.ofTag? element.tag with
  | none => exact .last _ _
  | some kind => exact tracedValue_follows kind element.value

end Request

/-! Envelopes and messages. -/

def Control.tracedList (input : Octets) : Traced Ber.Error (List Control) :=
  mapRounds id (fun element => .of (ofElement element)) input

theorem Control.tracedList_follows (input : Octets) :
    (tracedList input).Follows (listOf input) input.length :=
  mapRounds_follows (fun element => .last _ element.value.length) input

namespace Message

namespace Envelope

def tracedBody (body : Octets) : Traced Malformation Envelope :=
  Tracing.run body do
    let id ← ofBody.encoding (Reader.integer Tag.integer)
    let some id' := natBelow? (maxInt + 1) id | Tracing.plain (Reader.fail (.idOutOfRange id))
    let operation ← ofBody.encoding Reader.element
    let controls ← ofBody.encoding (Reader.optional Tag.controls)
    let controls ← (Control.tracedList (controls.getD [])).mapError Malformation.encoding
    Tracing.plain do
      ofBody.encoding Reader.finish
      return { id := id', operation, controls }

def traced (frame : Octets) : Traced Malformation Envelope := do
  let body ← .of ((Reader.run (ε := Ber.Error) frame do
    let body ← Reader.expect Tag.sequence
    Reader.finish
    return body).mapError .encoding)
  tracedBody body

theorem tracedBody_follows (body : Octets) :
    (tracedBody body).Follows (ofBody body) body.length
      fun envelope => envelope.operation.value.length := by
  refine Tracing.run_follows ?_
  refine Tracing.plain_bind (takes_encoding (Reader.takes_integer body _)) fun number rest taken => ?_
  cases natBelow? (maxInt + 1) number with
  | none =>
    change Traced.Follows (.of (.error _)) (.error _) _ _
    exact .of body.length.zero_le
  | some id =>
    refine Tracing.plain_bind (takes_encoding (Reader.takes_element rest))
      fun operation rest₁ taken₁ => ?_
    refine Tracing.plain_bind (takes_encoding (Reader.takes_optional rest₁ _))
      fun found rest₂ taken₂ => ?_
    have content := length_getD_le found
    have shared : (found.getD []).length + operation.value.length ≤ body.length := by omega
    refine Tracing.traced_bind ((Control.tracedList_follows (found.getD [])).mapError _) shared
      fun controls => ?_
    exact Tracing.of ((takes_encoding (Reader.takes_finish rest₂)).bind fun _ _ _ =>
      Reader.takes_pure (Nat.le_refl operation.value.length))

theorem traced_follows (frame : Octets) :
    (traced frame).Follows (ofFrame frame) frame.length
      fun envelope => envelope.operation.value.length := by
  refine .of_bind (guarantees_encoding (frame_guarantees frame)) fun body shorter => ?_
  exact (tracedBody_follows body).mono shorter

end Envelope

def answerOf (envelope : Envelope) (request : Except Fault Request) : Except DecodeError Message :=
  let refuse (response : ResponseKind) (cause : Rejection) : Except DecodeError Message :=
    .error (.ofRejection envelope.id response cause)
  let fallback := ResponseKind.forTag envelope.operation.tag
  match request with
  | .error (.encoding .invalidUtf8) => refuse fallback .invalidText
  | .error (.encoding error) => .error (.ofMalformation (.encoding error))
  | .error (.rejected cause) => refuse fallback cause
  | .ok request =>
      match request.kind.response?, envelope.controls.find? (·.critical) with
      | some response, some control => refuse response (.criticalControl control.oid)
      | _, _ => .ok { id := envelope.id, request, controls := envelope.controls }

theorem ofEnvelope_eq (envelope : Envelope) :
    ofEnvelope envelope = answerOf envelope (Request.ofElement envelope.operation) := rfl

def traced (frame : Octets) : Traced DecodeError Message := do
  let envelope ← (Envelope.traced frame).mapError .ofMalformation
  (Request.traced envelope.operation).conclude (answerOf envelope)

theorem traced_follows (frame : Octets) :
    (traced frame).Follows (decode frame) frame.length := by
  have staged : decode frame =
      (Envelope.ofFrame frame).mapError DecodeError.ofMalformation >>= ofEnvelope := by
    unfold decode
    cases Envelope.ofFrame frame <;> rfl
  rw [staged]
  refine ((Envelope.traced_follows frame).mapError DecodeError.ofMalformation).bind
    fun envelope => ?_
  rw [ofEnvelope_eq]
  exact (Request.traced_follows envelope.operation).conclude (answerOf envelope)

/-- No octets that are sent come to more than they are worth. Every element that is found in them,
at whatever depth, has cost two octets; so has every round of a loop, of those that end in an error
too, and what the decoding comes to is no larger than a fixed multiple of what it has read. -/
theorem no_amplification (frame : Octets) :
    (∀ message, decode frame = .ok message → 2 * message.allParts.length ≤ frame.length) ∧
    (traced frame).outcome = decode frame ∧
    (∀ round ∈ (traced frame).rounds, round.Advances) ∧
    2 * (traced frame).rounds.length ≤ frame.length ∧
    resultSize (decode frame) ≤ 3 * frame.length + 128 := by
  have follows := traced_follows frame
  have rounds := Nat.le_of_add_right_le follows.count
  exact ⟨fun _ => two_mul_length_allParts_le, follows.same, follows.advances, rounds,
    resultSize_le frame⟩

def samplePieces : Message where
  id := 5
  request := .search {
    base := ""
    scope := .subtree
    filter := .not (.substrings { attr := "cn", any := ["a", "b"] })
    attributes := ["mail"] }
  controls := [{ oid := "1.2.3" }]

theorem no_amplification_samplePieces :
    decode samplePieces.write = .ok samplePieces ∧
      2 * samplePieces.allParts.length ≤ samplePieces.write.length := by
  have pieces : SubstringsAssertion.HasSegment { attr := "cn", any := ["a", "b"] } :=
    .inr (.inl (List.cons_ne_nil _ _))
  have form : samplePieces.HasForm :=
    ⟨by decide, ⟨by decide, by decide, .not (.substrings rfl pieces), by decide⟩,
      .inr (.inr (by decide))⟩
  have read := decode_write form (by decide +kernel)
  exact ⟨read, (no_amplification samplePieces.write).1 samplePieces read⟩

end Message

end LdapService

import LdapService.Proofs.Ber.Guarantees
import LdapService.Proofs.Message.Extent

/-!
What is read is in proportion to what it is read from. Each decoder is gone through once: the parts
of what it finds leave their footprint within its octets, and what it finds fault with is told in
brief. The octets of an element are shared out among the elements inside it and never used twice,
so this goes on from values to elements, from lists to whole messages, and for filters by induction
on the levels that the decoder may still go down.
-/

namespace LdapService

open Ber Ber.Reader
open LdapService.Part (footprint)

/-! Faults are told in brief as well. -/

def Fault.IsBrief : Fault → Prop
  | .encoding error => error.IsBrief
  | .rejected cause => Text.IsBrief cause.message

def Malformation.IsBrief (cause : Malformation) : Prop :=
  Text.IsBrief cause.message

theorem Fault.isBrief_encoding (error : Ber.Error) (brief : error.IsBrief) :
    (Fault.encoding error).IsBrief := brief

namespace Rejection

theorem isBrief_number {front : String} {number : Int} (word : Integer.IsWord number)
    (short : Text.size front ≤ 48) : Text.IsBrief (front ++ toString number) :=
  Text.size_append_le short (Text.size_intRepr_le word.1 word.2)

theorem isBrief_tag {front : String} (tag : UInt8) (short : Text.size front ≤ 48) :
    Text.IsBrief (front ++ Octets.hex tag) :=
  (Text.size_append_le short (Text.size_hex_le tag)).trans (by decide)

theorem isBrief_substringOutOfOrder (tag : UInt8) :
    Text.IsBrief (substringOutOfOrder tag).message := by
  have front : Text.size "Substring choice 0x" ≤ 19 := by decide
  have back : Text.size " out of order" ≤ 13 := by decide
  have told := Text.size_append_le (Text.size_append_le front (Text.size_hex_le tag)) back
  exact told.trans (by decide)

end Rejection

section Lifted

variable {α : Type} {input : Octets}

theorem takes_lift {reader : Reader Ber.Error α} {taken : α → Octets → Prop}
    (takes : reader.Takes input taken Ber.Error.IsBrief) :
    (liftM reader : Reader Fault α).Takes input taken Fault.IsBrief :=
  takes.mapError fun _ brief => brief

theorem guarantees_lift {outcome : Except Ber.Error α} {good : α → Prop}
    (guaranteed : Guarantees outcome good Ber.Error.IsBrief) :
    Guarantees (liftM outcome : Except Fault α) good Fault.IsBrief :=
  guaranteed.mapError fun _ brief => brief

theorem guarantees_encoding {outcome : Except Ber.Error α} {good : α → Prop}
    (guaranteed : Guarantees outcome good Ber.Error.IsBrief) :
    Guarantees (outcome.mapError Malformation.encoding) good Malformation.IsBrief :=
  guaranteed.mapError fun _ brief => brief

theorem takes_encoding {reader : Reader Ber.Error α} {taken : α → Octets → Prop}
    (takes : reader.Takes input taken Ber.Error.IsBrief) :
    (Message.Envelope.ofBody.encoding reader).Takes input taken Malformation.IsBrief :=
  takes.mapError fun _ brief => brief

theorem takes_judged {ε : Type} {outcome : Except ε α} {judged : α → Prop} {bad : ε → Prop}
    (guaranteed : Guarantees outcome judged bad) :
    (liftM outcome : Reader ε α).Takes input (fun value rest => judged value ∧ rest = input) bad :=
  takes_ofExcept (guaranteed.mono fun _ judged => ⟨judged, rfl⟩)

theorem requireSome_guarantees (value : Option α) {cause : Rejection}
    (brief : Text.IsBrief cause.message) :
    Guarantees (requireSome value cause) (fun found => value = some found) Fault.IsBrief := by
  cases value with
  | none => exact brief
  | some found => exact rfl

theorem takes_number {β : Type} {tag : UInt8} {check : Int → Option α} {cause : Int → Rejection}
    {next : α → Reader Fault β} {taken : β → Octets → Prop}
    (brief : ∀ number, Integer.IsWord number → Text.IsBrief (cause number).message)
    (goesOn : ∀ found rest, rest.length ≤ input.length →
      (next found).Takes rest taken Fault.IsBrief) :
    Reader.Takes (ε := Fault) (do
      let number ← Reader.integer tag
      next (← requireSome (check number) (cause number))) input taken Fault.IsBrief := by
  refine (takes_lift (takes_integer input tag)).bind fun number rest word => ?_
  refine (takes_judged (requireSome_guarantees _ (brief number word.1))).bind fun found _ left => ?_
  obtain ⟨-, rfl⟩ := left
  exact goesOn found _ word.2

end Lifted

/-! Texts, attributes and assertions. -/

theorem Ber.Element.expect_guarantees (element : Element) (tag : UInt8) :
    Guarantees (element.expect tag) (fun content => content = element.value) Ber.Error.IsBrief := by
  unfold Element.expect
  split
  · exact rfl
  · exact Ber.Error.isBrief_unexpectedTag tag element.tag

theorem textAnd_guarantees (value : Octets) (tag : UInt8) :
    Guarantees (run value (textAnd tag))
      (fun found => Text.size found.1 + 2 + (found.2.length + 2) ≤ value.length)
      Ber.Error.IsBrief := by
  refine .run ?_
  refine (takes_text value _).bind fun text rest taken => ?_
  refine (takes_expect rest tag).bind fun content rest' taken' => ?_
  refine (takes_finish rest').bind fun _ _ _ => takes_pure ?_
  change Text.size text + 2 + (content.length + 2) ≤ value.length
  omega

theorem readTexts_guarantees (input : Octets) :
    Guarantees (readTexts input) (fun texts => footprint (texts.map .text) ≤ input.length)
      Ber.Error.IsBrief := by
  have each (element : Element) :
      Guarantees (do textOf (← element.expect Tag.octetString))
        (fun text => (Part.text text).extent ≤ element.value.length + 2) Ber.Error.IsBrief := by
    refine (element.expect_guarantees _).bind fun content same => ?_
    refine (textOf_guarantees content).mono fun text sized => ?_
    rw [Part.extent_text, sized, same]
  refine (mapElements_guarantees (fun _ brief => brief) each input).mono fun texts paid => ?_
  rwa [Part.footprint_map]

theorem readAttribute_guarantees (value : Octets) :
    Guarantees (readAttribute value) (fun pair => footprint (Attributes.partsOf pair) ≤ value.length)
      Ber.Error.IsBrief := by
  refine (textAnd_guarantees value Tag.set).bind fun found taken => ?_
  refine (readTexts_guarantees found.2).bind fun values paid => ?_
  change footprint (.frame :: .text found.1 :: values.map .text) ≤ value.length
  simp only [Part.footprint_cons, Part.extent_frame, Part.extent_text]
  omega

theorem Assertion.ofValue_guarantees (value : Octets) :
    Guarantees (ofValue value) (fun assertion => footprint assertion.parts ≤ value.length)
      Ber.Error.IsBrief := by
  refine .run ?_
  refine (takes_text value _).bind fun attr rest taken => ?_
  refine (takes_text rest _).bind fun asserted rest' taken' => ?_
  refine (takes_finish rest').bind fun _ _ _ => takes_pure ?_
  change footprint [.text attr, .text asserted] ≤ value.length
  simp only [Part.footprint_cons, Part.footprint_nil, Part.extent_text]
  omega

/-! Filters. -/

namespace SubstringsAssertion

theorem addSegment_guarantees (assertion : SubstringsAssertion) (element : Element) :
    Guarantees (addSegment assertion element)
      (fun next => footprint next.parts = footprint assertion.parts + (element.value.length + 2))
      Fault.IsBrief := by
  cases read : textOf element.value with
  | error error =>
    have brief := textOf_guarantees element.value
    rw [addSegment, read]
    rw [read] at brief
    exact brief
  | ok text =>
    obtain ⟨tag, value⟩ := element
    obtain rfl : value = Text.utf8 text := textOf_eq_ok_iff.1 read
    change Guarantees (addSegment assertion (Segment.element ⟨tag, text⟩)) _ _
    cases steps : addSegment assertion (Segment.element ⟨tag, text⟩) with
    | error fault =>
      obtain rfl := fault_of_addSegment steps
      exact Rejection.isBrief_substringOutOfOrder tag
    | ok next =>
      obtain ⟨attr, rule, segments⟩ := segments_of_addSegment steps
      change footprint next.parts = footprint assertion.parts + (Text.size text + 2)
      simp only [parts, attr, rule, segments, List.map_append, Part.footprint_cons,
        Part.footprint_append, List.map_cons, List.map_nil, Part.footprint_nil, Part.extent_text]
      omega

theorem ofValue_guarantees (value : Octets) :
    Guarantees (ofValue value) (fun assertion => footprint assertion.parts ≤ value.length)
      Fault.IsBrief := by
  refine (guarantees_lift (textAnd_guarantees value Tag.sequence)).bind fun found taken => ?_
  obtain ⟨attr, segments⟩ := found
  let kept (room : Nat) (assertion : SubstringsAssertion) :=
    footprint assertion.parts + room ≤ value.length
  have keeps (room left : Nat) (assertion : SubstringsAssertion) (found : Element)
      (paid : found.value.length + 2 + left ≤ room) (before : kept room assertion) :
      Guarantees (addSegment assertion found) (kept left) Fault.IsBrief := by
    refine (addSegment_guarantees assertion found).mono fun next same => ?_
    simp only [kept] at before ⊢
    omega
  have begun : kept segments.length { attr } := by
    change Text.size attr + 2 + (segments.length + 2) ≤ value.length at taken
    change footprint [.text attr] + segments.length ≤ value.length
    simp only [Part.footprint_cons, Part.footprint_nil, Part.extent_text]
    omega
  refine (foldElements_guarantees Fault.isBrief_encoding keeps begun).bind fun assertion paid => ?_
  split
  · change Text.IsBrief _
    decide
  · exact paid

end SubstringsAssertion

namespace Filter

theorem ofExtensible_guarantees (value : Octets) :
    Guarantees (ofExtensible value) (fun filter => footprint filter.parts ≤ value.length + 2)
      Fault.IsBrief := by
  let within (found : Option String × Option String × String) :=
    footprint ((found.1.toList ++ found.2.1.toList ++ [found.2.2]).map .text) ≤ value.length
  refine Guarantees.bind (guarantees_lift (?_ : Guarantees _ within Ber.Error.IsBrief))
    fun found taken => ?_
  · refine .run ?_
    refine (takes_optionalText value _).bind fun rule rest taken => ?_
    refine (takes_optionalText rest _).bind fun attr rest₁ taken₁ => ?_
    refine (takes_expect rest₁ _).bind fun content rest₂ taken₂ => ?_
    refine (takes_judged (textOf_guarantees content)).bind fun asserted _ sized => ?_
    obtain ⟨sized, rfl⟩ := sized
    refine (takes_optional _ _).bind fun flag rest₃ taken₃ => ?_
    have done : within (rule, attr, asserted) := by
      simp only [within, List.map_append, List.map_cons, List.map_nil, Part.footprint_append,
        Part.footprint_optionalText, Part.footprint_cons, Part.footprint_nil, Part.extent_text]
      omega
    have ended : Takes _ rest₃ (fun found _ => within found) Ber.Error.IsBrief :=
      (takes_finish rest₃).bind fun _ _ _ => takes_pure done
    cases flag with
    | none => exact ended
    | some flag =>
      dsimp only
      split
      · change Ber.Error.invalidBoolean.IsBrief
        decide
      · exact ended
  · obtain ⟨rule, attr, asserted⟩ := found
    simp only [within] at taken
    cases attr with
    | some attr =>
      change footprint (.frame :: .text attr :: (rule.toList ++ [asserted]).map .text) ≤ _
      simp only [Option.toList, List.map_append, List.map_cons, List.map_nil, Part.footprint_append,
        Part.footprint_cons, Part.footprint_nil, Part.extent_text, Part.extent_frame] at taken ⊢
      omega
    | none =>
      cases rule with
      | some rule =>
        change 2 ≤ value.length + 2
        omega
      | none =>
        change Text.IsBrief _
        decide

section Choices

variable (value : Octets)

theorem assertion_guarantees (choice : Assertion → Filter)
    (node : ∀ assertion, (choice assertion).parts = .frame :: assertion.parts) :
    Guarantees (ε := Fault) (do return choice (← Assertion.ofValue value))
      (fun filter => footprint filter.parts ≤ value.length + 2) Fault.IsBrief := by
  refine (guarantees_lift (Assertion.ofValue_guarantees value)).bind fun assertion paid => ?_
  change footprint (choice assertion).parts ≤ value.length + 2
  rw [node, Part.footprint_cons, Part.extent_frame]
  omega

theorem substrings_guarantees :
    Guarantees (do return substrings (← SubstringsAssertion.ofValue value))
      (fun filter => footprint filter.parts ≤ value.length + 2) Fault.IsBrief := by
  refine (SubstringsAssertion.ofValue_guarantees value).bind fun assertion paid => ?_
  change footprint (.frame :: assertion.parts) ≤ value.length + 2
  rw [Part.footprint_cons, Part.extent_frame]
  omega

theorem present_guarantees :
    Guarantees (ε := Fault) (do return present (← Reader.textOf value))
      (fun filter => footprint filter.parts ≤ value.length + 2) Fault.IsBrief := by
  refine (guarantees_lift (textOf_guarantees value)).bind fun attr same => ?_
  change footprint [.text attr] ≤ value.length + 2
  rw [Part.footprint_cons, Part.extent_text, Part.footprint_nil, same]

variable {levels : Nat} (each : ∀ element, Guarantees (ofElement levels element)
  (fun filter => footprint filter.parts ≤ element.value.length + 2) Fault.IsBrief)

include each

theorem children_guarantees :
    Guarantees (mapElements Fault.encoding (ofElement levels) value)
      (fun children => footprint (.frame :: partsAll children) ≤ value.length + 2)
      Fault.IsBrief := by
  refine (mapElements_guarantees Fault.isBrief_encoding each value).mono fun children paid => ?_
  rw [Part.footprint_cons, partsAll_eq_flatMap, Part.footprint_flatMap, Part.extent_frame]
  omega

theorem not_guarantees :
    Guarantees (Reader.run (ε := Fault) value do
      let child ← ofElement levels (← Reader.element)
      unless ← Reader.atEnd do Reader.fail (.rejected .negationOfSeveral)
      return Filter.not child)
      (fun filter => footprint filter.parts ≤ value.length + 2) Fault.IsBrief := by
  refine .run ?_
  refine (takes_lift (takes_element value)).bind fun inner rest taken => ?_
  refine (takes_judged (each inner)).bind fun child rest judged => ?_
  have paid : footprint (.frame :: child.parts) ≤ value.length + 2 := by
    rw [Part.footprint_cons, Part.extent_frame]
    omega
  have looked : (Reader.atEnd : Reader Fault Bool).Takes rest (fun _ _ => True) Fault.IsBrief :=
    trivial
  refine looked.bind fun last _ _ => ?_
  cases last with
  | true => exact paid
  | false =>
    change Text.IsBrief _
    decide

end Choices

theorem ofElement_guarantees (levels : Nat) (element : Element) :
    Guarantees (ofElement levels element)
      (fun filter => footprint filter.parts ≤ element.value.length + 2) Fault.IsBrief := by
  induction levels generalizing element with
  | zero =>
    change Text.IsBrief _
    decide
  | succ levels ih =>
    obtain ⟨tag, value⟩ := element
    have children := children_guarantees value ih
    -- in the order in which the choices are told apart
    refine .ite (.map children) (.ite (.map children) (.ite (not_guarantees value ih) ?_))
    refine .ite (assertion_guarantees value equality fun _ => rfl) ?_
    refine .ite (assertion_guarantees value greaterOrEqual fun _ => rfl) ?_
    refine .ite (assertion_guarantees value lessOrEqual fun _ => rfl) ?_
    refine .ite (substrings_guarantees value) (.ite (present_guarantees value) ?_)
    exact .ite (ofExtensible_guarantees value) (Nat.le_add_left 2 value.length)

end Filter

/-! Requests, one lemma for each kind. -/

namespace BindRequest

theorem readAuthentication_guarantees (element : Element) :
    Guarantees (readAuthentication element)
      (fun authentication => footprint authentication.parts ≤ element.value.length + 2)
      Fault.IsBrief := by
  unfold readAuthentication
  split
  · change footprint [.octets element.value] ≤ element.value.length + 2
    rw [Part.footprint_cons, Part.extent_octets, Part.footprint_nil]
  split
  · refine .run ?_
    refine (takes_lift (takes_text element.value _)).bind fun mechanism rest taken => ?_
    refine (takes_lift (takes_optional rest _)).bind fun credentials rest₁ taken₁ => ?_
    refine (takes_lift (takes_finish rest₁)).bind fun _ _ _ => takes_pure ?_
    change footprint (.frame :: .text mechanism :: credentials.toList.map .octets) ≤ _
    simp only [Part.footprint_cons, Part.extent_frame, Part.extent_text, Part.footprint_optional]
    omega
  · exact Rejection.isBrief_tag element.tag (by decide)

theorem ofValue_guarantees (value : Octets) :
    Guarantees (ofValue value)
      (fun request => footprint (Request.bind request).parts ≤ value.length) Fault.IsBrief := by
  refine .run ?_
  refine takes_number (fun _ _ => by decide) fun version rest taken => ?_
  refine (takes_lift (takes_text _ _)).bind fun name rest₁ taken₁ => ?_
  refine (takes_lift (takes_element rest₁)).bind fun element rest₂ taken₂ => ?_
  refine (takes_judged (readAuthentication_guarantees element)).bind fun authentication _ paid => ?_
  obtain ⟨paid, rfl⟩ := paid
  refine (takes_lift (takes_finish _)).bind fun _ _ _ => takes_pure ?_
  change footprint (.text name :: authentication.parts) ≤ value.length
  rw [Part.footprint_cons, Part.extent_text]
  omega

end BindRequest

theorem SearchRequest.ofValue_guarantees (value : Octets) :
    Guarantees (ofValue value)
      (fun request => footprint (Request.search request).parts ≤ value.length) Fault.IsBrief := by
  refine .run ?_
  refine (takes_lift (takes_text value _)).bind fun base rest taken => ?_
  refine takes_number (fun _ word => Rejection.isBrief_number word (by decide))
    fun scope rest₁ taken₁ => ?_
  refine takes_number (fun _ word => Rejection.isBrief_number word (by decide))
    fun deref rest₂ taken₂ => ?_
  refine takes_number (fun _ word => Rejection.isBrief_number word (by decide))
    fun sizeLimit rest₃ taken₃ => ?_
  refine takes_number (fun _ word => Rejection.isBrief_number word (by decide))
    fun timeLimit rest₄ taken₄ => ?_
  refine (takes_lift (takes_boolean _)).bind fun typesOnly rest₅ taken₅ => ?_
  refine (takes_lift (takes_element rest₅)).bind fun element rest₆ taken₆ => ?_
  refine (takes_judged (Filter.ofElement_guarantees Filter.maxDepth element)).bind
    fun filter _ paid => ?_
  obtain ⟨paid, rfl⟩ := paid
  refine (takes_lift (takes_expect _ _)).bind fun list rest₇ taken₇ => ?_
  refine (takes_judged (guarantees_lift (readTexts_guarantees list))).bind
    fun attributes _ paid' => ?_
  obtain ⟨paid', rfl⟩ := paid'
  refine (takes_lift (takes_finish _)).bind fun _ _ _ => takes_pure ?_
  change footprint (.text base :: filter.parts ++ attributes.map .text) ≤ value.length
  rw [Part.footprint_append, Part.footprint_cons, Part.extent_text]
  omega

namespace ModifyRequest

theorem readChange_guarantees (element : Element) :
    Guarantees (readChange element)
      (fun change => footprint change.parts ≤ element.value.length + 2) Fault.IsBrief := by
  refine (guarantees_lift (element.expect_guarantees _)).bind fun content same => ?_
  subst same
  let within (found : ModifyOperation × String × List String) :=
    footprint (Attributes.partsOf found.2) ≤ element.value.length
  refine Guarantees.bind (?_ : Guarantees _ within Fault.IsBrief) fun found paid => ?_
  · refine .run ?_
    refine takes_number (fun _ word => Rejection.isBrief_number word (by decide))
      fun operation rest taken => ?_
    refine (takes_lift (takes_expect rest _)).bind fun content rest₁ taken₁ => ?_
    refine (takes_judged (guarantees_lift (readAttribute_guarantees content))).bind
      fun pair _ paid => ?_
    obtain ⟨paid, rfl⟩ := paid
    refine (takes_lift (takes_finish _)).bind fun _ _ _ => takes_pure ?_
    change footprint (Attributes.partsOf pair) ≤ element.value.length
    omega
  · change footprint (.frame :: Attributes.partsOf found.2) ≤ element.value.length + 2
    rw [Part.footprint_cons, Part.extent_frame]
    change footprint (Attributes.partsOf found.2) ≤ element.value.length at paid
    omega

theorem ofValue_guarantees (value : Octets) :
    Guarantees (ofValue value)
      (fun request => footprint (Request.modify request).parts ≤ value.length) Fault.IsBrief := by
  refine (guarantees_lift (textAnd_guarantees value Tag.sequence)).bind fun found taken => ?_
  refine (mapElements_guarantees Fault.isBrief_encoding readChange_guarantees found.2).bind
    fun changes paid => ?_
  change footprint (.text found.1 :: changes.flatMap Modification.parts) ≤ value.length
  rw [Part.footprint_cons, Part.extent_text, Part.footprint_flatMap]
  omega

end ModifyRequest

namespace Entry

theorem footprint_alterPairs_le (name : String) (values : List String)
    (pairs : List (String × List String)) :
    footprint ((Attributes.alterPairs name (· ++ values) pairs).flatMap Attributes.partsOf) ≤
      footprint (pairs.flatMap Attributes.partsOf) + footprint (Attributes.partsOf (name, values)) := by
  induction pairs with
  | nil => simp [Attributes.alterPairs]
  | cons pair rest ih =>
    rw [Attributes.alterPairs]
    split
    · rw [List.flatMap_cons, Part.footprint_append, Nat.add_comm]
      exact Nat.le_refl _
    split
    · simp only [List.flatMap_cons, Attributes.partsOf, List.map_cons, List.map_append,
        Part.footprint_append, Part.footprint_cons]
      omega
    · rw [List.flatMap_cons, List.flatMap_cons, Part.footprint_append, Part.footprint_append]
      omega

theorem footprint_foldl_le (attributes : Attributes) (pairs : List (String × List String)) :
    footprint ((pairs.foldl (fun attributes pair => attributes.append pair.1 pair.2)
        attributes).pairs.flatMap Attributes.partsOf) ≤
      footprint (attributes.pairs.flatMap Attributes.partsOf) +
        footprint (pairs.flatMap Attributes.partsOf) := by
  induction pairs generalizing attributes with
  | nil => exact Nat.le_refl _
  | cons pair rest ih =>
    obtain ⟨name, values⟩ := pair
    have one := footprint_alterPairs_le name values attributes.pairs
    rw [List.foldl_cons, List.flatMap_cons, Part.footprint_append]
    refine (ih (attributes.append name values)).trans ?_
    change footprint ((Attributes.alterPairs name (· ++ values) attributes.pairs).flatMap
      Attributes.partsOf) + _ ≤ _
    omega

theorem ofValue_guarantees (value : Octets) :
    Guarantees (ofValue value) (fun entry => footprint (Request.add entry).parts ≤ value.length)
      Fault.IsBrief := by
  refine (guarantees_lift (textAnd_guarantees value Tag.sequence)).bind fun found taken => ?_
  have each (element : Element) :
      Guarantees (ε := Fault) (do readAttribute (← element.expect Tag.sequence))
        (fun pair => footprint (Attributes.partsOf pair) ≤ element.value.length + 2)
        Fault.IsBrief := by
    refine (guarantees_lift (element.expect_guarantees _)).bind fun content same => ?_
    subst same
    refine (guarantees_lift (readAttribute_guarantees element.value)).mono fun pair paid => ?_
    omega
  refine (mapElements_guarantees Fault.isBrief_encoding each found.2).bind fun pairs paid => ?_
  have collected : footprint ((Attributes.ofPairs pairs).pairs.flatMap Attributes.partsOf) ≤
      0 + footprint (pairs.flatMap Attributes.partsOf) := footprint_foldl_le .empty pairs
  change footprint (.text found.1 :: (Attributes.ofPairs pairs).pairs.flatMap Attributes.partsOf) ≤
    value.length
  rw [Part.footprint_flatMap pairs] at collected
  rw [Part.footprint_cons, Part.extent_text]
  omega

end Entry

theorem ModifyDnRequest.ofValue_guarantees (value : Octets) :
    Guarantees (ofValue value)
      (fun request => footprint (Request.modifyDn request).parts ≤ value.length) Fault.IsBrief := by
  refine .run ?_
  refine (takes_lift (takes_text value _)).bind fun dn rest taken => ?_
  refine (takes_lift (takes_text rest _)).bind fun newRdn rest₁ taken₁ => ?_
  refine (takes_lift (takes_boolean rest₁)).bind fun deleteOldRdn rest₂ taken₂ => ?_
  refine (takes_lift (takes_optionalText rest₂ _)).bind fun newSuperior rest₃ taken₃ => ?_
  refine (takes_lift (takes_finish rest₃)).bind fun _ _ _ => takes_pure ?_
  change footprint (.text dn :: .text newRdn :: newSuperior.toList.map .text) ≤ value.length
  rw [Part.footprint_cons, Part.footprint_cons, Part.footprint_optionalText, Part.extent_text,
    Part.extent_text]
  omega

theorem CompareRequest.ofValue_guarantees (value : Octets) :
    Guarantees (ofValue value)
      (fun request => footprint (Request.compare request).parts ≤ value.length) Fault.IsBrief := by
  refine .run ?_
  refine (takes_lift (takes_text value _)).bind fun dn rest taken => ?_
  refine (takes_lift (takes_expect rest _)).bind fun content rest₁ taken₁ => ?_
  refine (takes_judged (guarantees_lift (Assertion.ofValue_guarantees content))).bind
    fun assertion _ paid => ?_
  obtain ⟨paid, rfl⟩ := paid
  refine (takes_lift (takes_finish _)).bind fun _ _ _ => takes_pure ?_
  change footprint [.text dn, .text assertion.attr, .text assertion.value] ≤ value.length
  simp only [Assertion.parts, List.map_append, List.map_cons, List.map_nil, Part.footprint_append,
    Part.footprint_cons, Part.footprint_nil, Part.extent_text] at paid ⊢
  omega

theorem ExtendedRequest.ofValue_guarantees (value : Octets) :
    Guarantees (ofValue value)
      (fun request => footprint (Request.extended request).parts ≤ value.length) Fault.IsBrief := by
  refine .run ?_
  refine (takes_lift (takes_text value _)).bind fun name rest taken => ?_
  refine (takes_lift (takes_optional rest _)).bind fun content rest₁ taken₁ => ?_
  refine (takes_lift (takes_finish rest₁)).bind fun _ _ _ => takes_pure ?_
  change footprint (.text name :: content.toList.map .octets) ≤ value.length
  rw [Part.footprint_cons, Part.footprint_optional, Part.extent_text]
  omega

namespace Request

theorem ofValue_guarantees (kind : RequestKind) (value : Octets) :
    Guarantees (ofValue kind value) (fun request => footprint request.parts ≤ value.length + 2)
      Fault.IsBrief := by
  have within {request : Request} (paid : footprint request.parts ≤ value.length) :
      footprint request.parts ≤ value.length + 2 := Nat.le_add_right_of_le paid
  cases kind with
  | bind => exact .map ((BindRequest.ofValue_guarantees value).mono fun _ => within)
  | unbind => exact Nat.zero_le _
  | search => exact .map ((SearchRequest.ofValue_guarantees value).mono fun _ => within)
  | modify => exact .map ((ModifyRequest.ofValue_guarantees value).mono fun _ => within)
  | add => exact .map ((Entry.ofValue_guarantees value).mono fun _ => within)
  | delete =>
    refine (guarantees_lift (textOf_guarantees value)).bind fun dn same => ?_
    change footprint [.text dn] ≤ value.length + 2
    rw [Part.footprint_cons, Part.extent_text, Part.footprint_nil, same]
  | modifyDn => exact .map ((ModifyDnRequest.ofValue_guarantees value).mono fun _ => within)
  | compare => exact .map ((CompareRequest.ofValue_guarantees value).mono fun _ => within)
  | abandon =>
    refine (guarantees_lift (Integer.read_guarantees value)).bind fun number _ => ?_
    exact (requireSome_guarantees _ (by decide)).bind fun id _ => Nat.zero_le _
  | extended => exact .map ((ExtendedRequest.ofValue_guarantees value).mono fun _ => within)

theorem ofElement_guarantees (element : Element) :
    Guarantees (ofElement element)
      (fun request => footprint request.parts ≤ element.value.length + 2) Fault.IsBrief := by
  unfold ofElement
  split
  · exact ofValue_guarantees _ element.value
  · exact Rejection.isBrief_tag element.tag (by decide)

end Request

/-! Envelopes and messages. -/

namespace Control

theorem ofElement_guarantees (element : Element) :
    Guarantees (ofElement element)
      (fun control => footprint control.parts ≤ element.value.length + 2) Ber.Error.IsBrief := by
  refine (element.expect_guarantees _).bind fun content same => ?_
  subst same
  refine .run ?_
  refine (takes_text element.value _).bind fun oid rest taken => ?_
  have looked : Reader.peek.Takes rest (fun _ left => left = rest) Ber.Error.IsBrief := rfl
  refine looked.bind fun tag left same => ?_
  subst same
  have goesOn (critical : Bool) (rest : Octets) (shorter : rest.length ≤ left.length) :
      Reader.Takes (do
        let value ← Reader.optional Tag.octetString
        Reader.finish
        return { oid, critical, value }) rest
        (fun (control : Control) _ => footprint control.parts ≤ element.value.length + 2)
        Ber.Error.IsBrief := by
    refine (takes_optional rest _).bind fun value rest₁ taken₁ => ?_
    refine (takes_finish rest₁).bind fun _ _ _ => takes_pure ?_
    change footprint (.frame :: .text oid :: value.toList.map .octets) ≤ _
    simp only [Part.footprint_cons, Part.extent_frame, Part.extent_text, Part.footprint_optional]
    omega
  dsimp only
  split
  · exact (takes_boolean left).bind goesOn
  · exact goesOn false left (Nat.le_refl _)

theorem size_oid_le (control : Control) : Text.size control.oid ≤ footprint control.parts := by
  simp only [parts, Part.footprint_cons, Part.extent_text]
  omega

theorem footprint_le_of_mem {control : Control} {controls : List Control}
    (mem : control ∈ controls) : footprint control.parts ≤ footprint (controls.flatMap parts) := by
  obtain ⟨before, after, rfl⟩ := List.append_of_mem mem
  rw [List.flatMap_append, List.flatMap_cons, Part.footprint_append, Part.footprint_append]
  omega

theorem listOf_guarantees (input : Octets) :
    Guarantees (listOf input) (fun controls => footprint (controls.flatMap parts) ≤ input.length)
      Ber.Error.IsBrief := by
  refine (mapElements_guarantees (fun _ brief => brief) ofElement_guarantees input).mono
    fun controls paid => ?_
  rwa [Part.footprint_flatMap]

end Control

namespace Message

def Envelope.Fits (envelope : Envelope) (room : Nat) : Prop :=
  envelope.operation.value.length + 2 + footprint (envelope.controls.flatMap Control.parts) ≤ room

theorem length_getD_le (found : Option Octets) :
    (found.getD []).length ≤ found.elim 0 fun content => content.length + 2 := by
  cases found with
  | none => exact Nat.le_refl 0
  | some content => exact Nat.le_add_right _ 2

theorem Envelope.ofBody_guarantees (body : Octets) :
    Guarantees (ofBody body) (fun envelope => envelope.Fits body.length) Malformation.IsBrief := by
  refine .run ?_
  refine (takes_encoding (takes_integer body _)).bind fun number rest taken => ?_
  cases natBelow? (maxInt + 1) number with
  | none =>
    have front : Text.size "Message ID " ≤ 11 := by decide
    have back : Text.size " out of range" ≤ 13 := by decide
    have told := Text.size_append_le
      (Text.size_append_le front (Text.size_intRepr_le taken.1.1 taken.1.2)) back
    exact told.trans (by decide)
  | some id =>
    refine (takes_encoding (takes_element rest)).bind fun operation rest₁ taken₁ => ?_
    refine (takes_encoding (takes_optional rest₁ _)).bind fun found rest₂ taken₂ => ?_
    refine (takes_encoding (takes_judged (Control.listOf_guarantees (found.getD [])))).bind
      fun controls rest₃ paid => ?_
    refine (takes_encoding (takes_finish rest₃)).bind fun _ _ _ => takes_pure ?_
    have content := length_getD_le found
    change operation.value.length + 2 + footprint (controls.flatMap Control.parts) ≤ body.length
    omega

theorem Envelope.frame_guarantees (frame : Octets) :
    Guarantees (ε := Ber.Error) (Reader.run frame do
      let body ← Reader.expect Tag.sequence
      Reader.finish
      return body) (fun body => body.length ≤ frame.length) Ber.Error.IsBrief := by
  refine .run ?_
  refine (takes_expect frame _).bind fun body rest taken => ?_
  refine (takes_finish rest).bind fun _ _ _ => takes_pure ?_
  omega

theorem Envelope.ofFrame_guarantees (frame : Octets) :
    Guarantees (ofFrame frame) (fun envelope => envelope.Fits frame.length) Malformation.IsBrief := by
  refine (guarantees_encoding (frame_guarantees frame)).bind fun body shorter => ?_
  exact (Envelope.ofBody_guarantees body).mono fun envelope fits => Nat.le_trans fits shorter

theorem ofEnvelope_guarantees {envelope : Envelope} {room : Nat} (fits : envelope.Fits room) :
    Guarantees (ofEnvelope envelope) (fun message => footprint message.allParts ≤ room)
      (fun error => error.size ≤ 128 + room) := by
  have guaranteed := Request.ofElement_guarantees envelope.operation
  have brief {text : String} (brief : Text.IsBrief text) : Text.size text ≤ 128 + room :=
    Nat.le_add_right_of_le brief
  unfold ofEnvelope
  dsimp only
  split
  · exact brief (show Text.IsBrief Rejection.invalidText.message by decide)
  · next error _ read =>
    rw [read] at guaranteed
    exact brief guaranteed
  · next cause read =>
    rw [read] at guaranteed
    exact brief guaranteed
  · next request read =>
    rw [read] at guaranteed
    change footprint request.parts ≤ envelope.operation.value.length + 2 at guaranteed
    unfold Envelope.Fits at fits
    split
    · next control _ found =>
      have listed := Control.footprint_le_of_mem (List.mem_of_find?_eq_some found)
      have front : Text.size "Critical control " ≤ 17 := by decide
      have back : Text.size " is not supported" ≤ 17 := by decide
      have told := Text.size_append_le (Text.size_append_le front control.size_oid_le) back
      exact told.trans (by omega)
    · change footprint (request.parts ++ envelope.controls.flatMap Control.parts) ≤ room
      rw [Part.footprint_append]
      omega

theorem decode_guarantees (frame : Octets) :
    Guarantees (decode frame) (fun message => footprint message.allParts ≤ frame.length)
      (fun error => error.size ≤ 128 + frame.length) := by
  have guaranteed := Envelope.ofFrame_guarantees frame
  unfold decode
  split
  · next cause read =>
    rw [read] at guaranteed
    exact Nat.le_add_right_of_le guaranteed
  · next envelope read =>
    rw [read] at guaranteed
    exact ofEnvelope_guarantees guaranteed

theorem two_mul_length_allParts_le {frame : Octets} {message : Message}
    (h : decode frame = .ok message) : 2 * message.allParts.length ≤ frame.length :=
  (Part.two_mul_length_le message.allParts).trans ((decode_guarantees frame).of_ok h)

theorem resultSize_le (frame : Octets) : resultSize (decode frame) ≤ 3 * frame.length + 128 := by
  have guaranteed := decode_guarantees frame
  cases read : decode frame with
  | error error =>
    rw [read] at guaranteed
    change error.size ≤ 128 + frame.length at guaranteed
    change error.size ≤ _
    omega
  | ok message =>
    have held : message.size ≤ 3 * footprint message.allParts :=
      Part.sum_size_le (isShort_of_hasForm (hasForm_of_decode read))
    have paid := guaranteed.of_ok read
    change message.size ≤ _
    omega

end Message

end LdapService

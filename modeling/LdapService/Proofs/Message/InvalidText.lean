import LdapService.Proofs.Ber.Outcomes
import LdapService.Proofs.Message.Boundary
import LdapService.Proofs.Message.Envelopes
import LdapService.Proofs.Message.Places
import LdapService.Proofs.Message.Spelled

/-!
A text that is not UTF-8 refuses its request and nothing else. Wherever in an operation the text
stands, all decoders around it give the one error on as it is, and none of them makes another
of it on the way.
-/

namespace LdapService

open Ber Ber.Reader

def Spoils (_ : UInt8) (_ after : Octets) : Prop :=
  Text.ofUtf8? after = none

theorem refuses_textOf (tag : UInt8) : Refuses (Spoils tag) .invalidUtf8 textOf := by
  intro before after text spoiled _
  rw [textOf, spoiled]

theorem refuses_text (tag : UInt8) :
    RefusesElement Spoils .invalidUtf8 fun element => expectation tag element >>= textOf :=
  .expect (refuses_textOf tag)

def Fault.invalidText : Fault :=
  .encoding .invalidUtf8

/-! The steps of a decoder: past a text or a number, and to the text that is spoiled. -/

namespace Ber.Reader

variable {α β : Type} {change : UInt8 → Octets → Octets → Prop} {index : Nat}
  {outcome : β → Except Fault β → Prop} {tag : UInt8}

theorem TurnsRun.pastText {next : String → Reader Fault β}
    (turns : ∀ text, TurnsRun (ChangedAt change index) outcome (next text)) :
    TurnsRun (ChangedAt change (index + 1)) outcome (liftM (text tag) >>= next) :=
  .later (takesOne_fault (takesOne_text tag)) turns

theorem TurnsRun.pastNumber {judge : Int → Except Fault α} {next : α → Reader Fault β}
    (turns : ∀ value, TurnsRun (ChangedAt change index) outcome (next value)) :
    TurnsRun (ChangedAt change (index + 1)) outcome
      (liftM (integer tag) >>= fun number => ofExcept (judge number) >>= next) :=
  .later (takesOne_fault (takesOne_integer tag)) fun _ => .check _ turns

theorem TurnsRun.pastFlag {next : Bool → Reader Fault β}
    (turns : ∀ flag, TurnsRun (ChangedAt change index) outcome (next flag)) :
    TurnsRun (ChangedAt change (index + 1)) outcome (liftM boolean >>= next) :=
  .later (takesOne_fault takesOne_boolean) turns

theorem RefusesRun.text (next : String → Reader Fault β) :
    RefusesRun (ChangedAt Spoils 0) Fault.invalidText (liftM (Reader.text tag) >>= next) :=
  .here (takesOne_fault (takesOne_text tag)) (fun tag' => (refuses_text tag tag').mapError _) next

theorem RefusesRun.within {changed : Octets → Octets → Prop} {judge : Octets → Except Error α}
    (refuses : Refuses changed .invalidUtf8 judge) (next : α → Reader Fault β) :
    RefusesRun (ChangedAt (fun _ => changed) 0) Fault.invalidText
      (liftM (expect tag) >>= fun content =>
        ofExcept ((judge content).mapError Fault.encoding) >>= next) :=
  .judged (takesOne_fault (takesOne_expect tag)) (.enclosed _ (refuses.mapError _)) next

theorem textAnd_refuses (tag : UInt8) :
    RefusesRun (ChangedAt Spoils 0) .invalidUtf8 (textAnd tag) :=
  RefusesRun.here (takesOne_text _) (refuses_text _) _

theorem textAnd_carries (tag : UInt8) :
    CarriesRun (ChangedAt change 1) (Beside (change tag)) (textAnd tag) := by
  refine TurnsRun.later (takesOne_text _) fun text => ?_
  refine CarriesRun.here (takesOne_expect tag) (expectation_carries _ tag) ?_
  exact Carries.standBy _ fun content content' _ changed => ⟨rfl, changed⟩

theorem refuses_textAnd {inner : Octets → Octets → Prop} {next : String × Octets → Except Fault α}
    (refuses : ∀ text, Refuses inner Fault.invalidText fun content => next (text, content)) :
    Refuses (fun before after => ChangedAt Spoils 0 before after ∨
        ChangedAt (fun _ => inner) 1 before after) Fault.invalidText fun value =>
      (run value (textAnd tag)).mapError Fault.encoding >>= next := by
  apply Refuses.or
  · exact ((textAnd_refuses tag).mapError Fault.encoding).bind _
  · exact ((textAnd_carries tag).mapError Fault.encoding).bind (Refuses.beside refuses)

end Ber.Reader

theorem Assertion.refuses_ofValue :
    Refuses (ChangesText Spoils) .invalidUtf8 Assertion.ofValue := by
  apply Refuses.or
  · exact RefusesRun.here (takesOne_text _) (refuses_text _) _
  · exact TurnsRun.later (takesOne_text _) fun attr =>
      RefusesRun.here (takesOne_text _) (refuses_text _) _

theorem refuses_readTexts : Refuses (Changed Spoils) .invalidUtf8 readTexts :=
  .mapElements (refuses_text Tag.octetString)

theorem Attributes.refuses_readAttribute :
    Refuses (ChangesText Spoils) .invalidUtf8 readAttribute := by
  apply Refuses.or
  · exact (textAnd_refuses Tag.set).bind _
  · refine (textAnd_carries Tag.set).bind ?_
    exact Refuses.beside fun attr => refuses_readTexts.bind _

namespace SubstringsAssertion

theorem refuses_addSegment (assertion : SubstringsAssertion) :
    RefusesElement Spoils Fault.invalidText assertion.addSegment :=
  fun tag => ((refuses_textOf tag).mapError Fault.encoding).bind _

theorem refuses_ofValue : Refuses (ChangesText Spoils) Fault.invalidText ofValue :=
  refuses_textAnd fun _ => (Refuses.foldElements refuses_addSegment _).bind _

end SubstringsAssertion

namespace Filter

theorem refuses_extensibleText (tag : UInt8) :
    Refuses (ChangesExtensible Spoils tag) .invalidUtf8 textOf :=
  (refuses_textOf tag).mono fun _ _ changed => changed.2

theorem refuses_ofExtensible :
    Refuses (Changed (ChangesExtensible Spoils)) Fault.invalidText ofExtensible := by
  refine Refuses.bind (Refuses.mapError ?_ Fault.encoding) _
  -- which part an element is shows only in its tag, so each may be the changed one or be passed
  refine RefusesRun.optional (takesIf_optionalText _) (refuses_extensibleText _)
    fun rule => ?_
  refine RefusesRun.optional (takesIf_optionalText _) (refuses_extensibleText _)
    fun attr => ?_
  rw [← bind_assoc]
  refine RefusesRun.hereOrLater (takesOne_text _) (.expect (refuses_extensibleText _))
    fun value => ?_
  refine RefusesRun.optional (takesIf_optional _) ?_ fun flag => ?_
  · intro before after flag changed _
    exact absurd changed.1 (by decide)
  -- whatever the flag holds, no element may follow it
  split
  · split
    · exact TurnsRun.check _ fun _ => RefusesRun.ends ends_finish _
    · exact RefusesRun.ends ends_finish _
  · exact RefusesRun.ends ends_finish _

/-- By induction on the levels: a filter hands its children to the reading of one level less. -/
theorem refuses_ofElement (levels : Nat) :
    RefusesElement (ChangesText Spoils) Fault.invalidText (ofElement levels) := by
  induction levels with
  | zero =>
    intro tag before after filter apart accepted
    cases accepted
  | succ levels ih =>
    have asserted (build : Assertion → Filter) :
        Refuses (Assertion.ChangesText Spoils) Fault.invalidText fun value =>
          build <$> (liftM (Assertion.ofValue value) : Except Fault Assertion) :=
      (Assertion.refuses_ofValue.mapError Fault.encoding).map build
    intro tag before after filter apart accepted
    cases apart with
    | combination combines child =>
      obtain rfl | rfl := combines
      · exact Refuses.map (Refuses.mapElements ih) _ ⟨_, child⟩ accepted
      · exact Refuses.map (Refuses.mapElements ih) _ ⟨_, child⟩ accepted
    | negation child =>
      exact RefusesRun.judged (takesOne_fault takesOne_element) ih _ child accepted
    | comparison compares part =>
      simp only [List.mem_cons, List.not_mem_nil, or_false] at compares
      obtain rfl | rfl | rfl | rfl := compares
      · exact asserted .equality part accepted
      · exact asserted .equality part accepted
      · exact asserted .greaterOrEqual part accepted
      · exact asserted .lessOrEqual part accepted
    | substrings part =>
      exact SubstringsAssertion.refuses_ofValue.map Filter.substrings part accepted
    | present attr =>
      exact ((refuses_textOf _).mapError Fault.encoding).map Filter.present attr accepted
    | extensible part => exact refuses_ofExtensible ⟨_, part⟩ accepted

end Filter

theorem BindRequest.refuses_readAuthentication :
    RefusesElement (fun tag before after => tag = Tag.Bind.sasl ∧ ChangedAt Spoils 0 before after)
      Fault.invalidText readAuthentication := by
  rintro tag before after authentication ⟨rfl, apart⟩ accepted
  exact RefusesRun.text _ apart accepted

theorem BindRequest.refuses_ofValue :
    Refuses (Request.ChangesText Spoils .bind) Fault.invalidText BindRequest.ofValue := by
  apply Refuses.or
  · refine TurnsRun.pastNumber fun version => ?_
    exact RefusesRun.text _
  · refine TurnsRun.pastNumber fun version => ?_
    refine TurnsRun.pastText fun name => ?_
    exact RefusesRun.judged (takesOne_fault takesOne_element) refuses_readAuthentication _

namespace SearchRequest

def readSelection (request : Filter → List String → SearchRequest) :
    Reader Fault SearchRequest := do
  let filter ← Filter.ofElement Filter.maxDepth (← Reader.element)
  let attributes ← (readTexts (← Reader.expect Tag.sequence) : Except Fault (List String))
  Reader.finish
  return request filter attributes

theorem turns_ofValue {change : UInt8 → Octets → Octets → Prop} {index : Nat}
    {outcome : SearchRequest → Except Fault SearchRequest → Prop}
    (turns : ∀ request, TurnsRun (ChangedAt change index) outcome (readSelection request)) :
    Turns (ChangedAt change (index + 6)) outcome ofValue := by
  refine TurnsRun.pastText fun base => ?_
  refine TurnsRun.pastNumber fun scope => ?_
  refine TurnsRun.pastNumber fun deref => ?_
  refine TurnsRun.pastNumber fun sizeLimit => ?_
  refine TurnsRun.pastNumber fun timeLimit => ?_
  refine TurnsRun.pastFlag fun typesOnly => ?_
  exact turns fun filter attributes =>
    { base, scope, deref, sizeLimit, timeLimit, typesOnly, filter, attributes }

theorem refuses_ofValue :
    Refuses (Request.ChangesText Spoils .search) Fault.invalidText ofValue := by
  refine Refuses.or ?_ (Refuses.or ?_ ?_)
  · exact RefusesRun.text _
  · refine turns_ofValue fun request => ?_
    exact RefusesRun.judged (takesOne_fault takesOne_element)
      (Filter.refuses_ofElement Filter.maxDepth) _
  · refine turns_ofValue fun request => ?_
    refine TurnsRun.later (takesOne_fault takesOne_element) fun element => ?_
    refine TurnsRun.check _ fun filter => ?_
    exact RefusesRun.within refuses_readTexts _

end SearchRequest

namespace ModifyRequest

theorem refuses_readChange :
    RefusesElement (fun _ => ChangedAt (fun _ => Attributes.ChangesText Spoils) 1)
      Fault.invalidText readChange := by
  refine .enclosed Fault.encoding (Refuses.bind ?_ _)
  refine TurnsRun.pastNumber fun operation => ?_
  exact RefusesRun.within Attributes.refuses_readAttribute _

theorem refuses_ofValue :
    Refuses (Request.ChangesText Spoils .modify) Fault.invalidText ofValue :=
  refuses_textAnd fun _ => (Refuses.mapElements refuses_readChange).bind _

end ModifyRequest

theorem Entry.refuses_ofValue :
    Refuses (Request.ChangesText Spoils .add) Fault.invalidText ofValue := by
  refine refuses_textAnd fun dn => (Refuses.mapElements ?_).bind _
  exact .enclosed Fault.encoding (Attributes.refuses_readAttribute.mapError _)

theorem ModifyDnRequest.refuses_ofValue :
    Refuses (Request.ChangesText Spoils .modifyDn) Fault.invalidText ofValue := by
  refine Refuses.or ?_ (Refuses.or ?_ ?_)
  · exact RefusesRun.text _
  · refine TurnsRun.pastText fun dn => ?_
    exact RefusesRun.text _
  · refine TurnsRun.pastText fun dn => ?_
    refine TurnsRun.pastText fun newRdn => ?_
    refine TurnsRun.pastFlag fun deleteOldRdn => ?_
    intro input input' request apart accepted
    refine RefusesRun.optional ((takesIf_optionalText _).mapError _)
      ((refuses_textOf _).mapError _) (fun newSuperior => ?_) ⟨0, apart⟩ accepted
    exact RefusesRun.ends (ends_finish.mapError _) _

theorem CompareRequest.refuses_ofValue :
    Refuses (Request.ChangesText Spoils .compare) Fault.invalidText ofValue := by
  apply Refuses.or
  · exact RefusesRun.text _
  · refine TurnsRun.pastText fun dn => ?_
    exact RefusesRun.within Assertion.refuses_ofValue _

theorem ExtendedRequest.refuses_ofValue :
    Refuses (Request.ChangesText Spoils .extended) Fault.invalidText ofValue :=
  RefusesRun.text _

theorem Request.refuses_ofValue (kind : RequestKind) :
    Refuses (ChangesText Spoils kind) Fault.invalidText (ofValue kind) := by
  cases kind with
  | bind => exact BindRequest.refuses_ofValue.map _
  | search => exact SearchRequest.refuses_ofValue.map _
  | modify => exact ModifyRequest.refuses_ofValue.map _
  | add => exact Entry.refuses_ofValue.map _
  | delete => exact ((refuses_textOf RequestKind.delete.tag).mapError Fault.encoding).map _
  | modifyDn => exact ModifyDnRequest.refuses_ofValue.map _
  | compare => exact CompareRequest.refuses_ofValue.map _
  | extended => exact ExtendedRequest.refuses_ofValue.map _
  | unbind | abandon => exact fun _ _ _ nowhere => nowhere.elim

end LdapService

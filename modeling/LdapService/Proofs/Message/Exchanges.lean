import LdapService.Proofs.Message.InvalidText
import LdapService.Proofs.Message.RoundTrip

/-!
Messages in which one content has been exchanged for another of the same length. The envelope is
read as before, so whatever comes of the exchange comes of it in the operation. Octet strings are
taken as they are, whatever they hold.
-/

namespace LdapService

open Ber Ber.Reader

def Becomes (octets : Octets) (_ : UInt8) (_ after : Octets) : Prop :=
  after = octets

variable {octets : Octets}

namespace Ber.Reader

theorem lastOptional_carries {α : Type} {changed : α → α → Prop} (tag : UInt8)
    {build : Option Octets → α} (keeps : ∀ value, changed (build (some value)) (build (some octets))) :
    CarriesRun (ChangedAt (Becomes octets) 0) changed (do
        let value ← (Reader.optional tag : Reader Error (Option Octets))
        Reader.finish
        return build value : Reader Fault α) := by
  have takes : TakesIf tag (liftM (Reader.optional tag) : Reader Fault (Option Octets))
      fun value => (Except.ok value).mapError Fault.encoding :=
    (takesIf_optional tag).mapError Fault.encoding
  have ends : Ends (liftM Reader.finish : Reader Fault Unit) := ends_finish.mapError Fault.encoding
  intro input input' found apart accepted
  obtain ⟨last, accepted⟩ := of_run_ok accepted
  obtain ⟨read, between, wasRead, accepted⟩ := bind_eq_ok accepted
  obtain ⟨_, _, ended, accepted⟩ := bind_eq_ok accepted
  obtain rfl := ends ended
  cases accepted
  cases apart with
  | @here encoded content same becomes after =>
    by_cases tagged : encoded.tag = tag
    · have becomes : content = octets := becomes
      subst becomes
      rw [takes.there encoded tagged] at wasRead
      cases wasRead
      refine ⟨build (some content), keeps encoded.value, ?_⟩
      change ((_ >>= _ : Reader Fault α) _).1 = _
      rw [bind_of_ok (takes.there (encoded.exchange content same) tagged [])]
      rfl
    · have other : (encoded.octets ++ after).head? ≠ some tag :=
        fun head => tagged (Option.some.inj head)
      rw [takes.absent _ other] at wasRead
      cases wasRead

end Ber.Reader

def Authentication.withOctets (octets : Octets) : Authentication → Authentication
  | .simple _ => .simple octets
  | .sasl mechanism credentials => .sasl mechanism (credentials.map fun _ => octets)

def Request.withOctets (octets : Octets) : Request → Request
  | .bind request =>
      .bind { request with authentication := request.authentication.withOctets octets }
  | .extended request => .extended { request with value := request.value.map fun _ => octets }
  | request => request

theorem Request.kind_withOctets (octets : Octets) (request : Request) :
    (request.withOctets octets).kind = request.kind := by
  cases request <;> rfl

namespace BindRequest

def readSasl : Reader Fault Authentication := do
  let mechanism ← Reader.text Tag.octetString
  let credentials ← Reader.optional Tag.octetString
  Reader.finish
  return .sasl mechanism credentials

theorem carries_readSasl :
    CarriesRun (ChangedAt (Becomes octets) 1) (fun found found' => found' = found.withOctets octets)
      readSasl :=
  TurnsRun.pastText fun _ => lastOptional_carries _ fun _ => rfl

theorem carries_readAuthentication (tag : UInt8) :
    Carries (fun before after => tag = Tag.Bind.simple ∧ Becomes octets tag before after ∨
        tag = Tag.Bind.sasl ∧ ChangedAt (Becomes octets) 1 before after)
      (fun found found' => found' = found.withOctets octets)
      fun value => readAuthentication ⟨tag, value⟩ := by
  rintro before after found (⟨rfl, rfl⟩ | ⟨rfl, apart⟩) accepted
  · cases accepted
    exact ⟨_, rfl, rfl⟩
  · exact carries_readSasl apart accepted

theorem carries_ofValue :
    Carries (Request.ChangesOctets (Becomes octets) .bind)
      (fun found found' => Request.bind found' = (Request.bind found).withOctets octets)
      ofValue := by
  refine TurnsRun.pastNumber fun version => ?_
  refine TurnsRun.pastText fun name => ?_
  rw [← bind_assoc]
  refine CarriesRun.here ((takesOne_fault takesOne_element).judged readAuthentication)
    carries_readAuthentication (Carries.standBy _ ?_)
  rintro found _ _ rfl
  rfl

end BindRequest

theorem ExtendedRequest.carries_ofValue :
    Carries (Request.ChangesOctets (Becomes octets) .extended)
      (fun found found' => Request.extended found' = (Request.extended found).withOctets octets)
      ExtendedRequest.ofValue := by
  refine TurnsRun.pastText fun name => ?_
  exact lastOptional_carries _ fun _ => rfl

namespace Request

theorem carries_ofValue (kind : RequestKind) :
    Carries (ChangesOctets (Becomes octets) kind)
      (fun found found' => found' = found.withOctets octets) (ofValue kind) := by
  cases kind with
  | bind => exact BindRequest.carries_ofValue.map fun _ _ same => same
  | extended => exact ExtendedRequest.carries_ofValue.map fun _ _ same => same
  | _ => exact fun _ _ _ nowhere => nowhere.elim

theorem response_of_changesText {change : UInt8 → Octets → Octets → Prop} {kind : RequestKind}
    {before after : Octets}
    (place : ChangesText change kind before after) :
    ∃ response, kind.response? = some response := by
  cases kind with
  | unbind | abandon => exact place.elim
  | _ => exact ⟨_, rfl⟩

end Request

namespace Message

variable {change : UInt8 → Octets → Octets → Prop}

def Envelope.Exchanges (change : UInt8 → Octets → Octets → Prop) (envelope envelope' : Envelope) :
    Prop :=
  ∃ content, change envelope.operation.tag envelope.operation.value content ∧
    envelope' = { envelope with operation := ⟨envelope.operation.tag, content⟩ }

theorem Envelope.carries_ofBody :
    Carries (ChangedAt change 1) (Exchanges change) ofBody := by
  intro body body' envelope apart accepted
  cases apart with
  | later number apart =>
    cases apart with
    | @here operation content same changed after =>
      rw [ofBody_eq number operation.yields] at accepted
      obtain ⟨id, held, controls⟩ := envelope
      obtain ⟨numbered, low, read, listed⟩ := assemble_eq_ok_iff.1 accepted
      obtain rfl := Except.ok.inj read
      refine ⟨_, ⟨content, changed, rfl⟩, ?_⟩
      rw [ofBody_eq number (operation.exchange content same).yields]
      exact assemble_eq_ok_iff.2 ⟨numbered, low, rfl, listed⟩

theorem carries_outer {changed : Octets → Octets → Prop} :
    Carries (ChangedAt (fun _ => changed) 0) changed outer :=
  CarriesRun.here (takesOne_expect _) (expectation_carries _ _)
    (Carries.standBy _ fun _ _ _ apart => apart)

theorem Envelope.carries_ofFrame :
    Carries (ChangesOperation change) (Exchanges change) ofFrame :=
  (carries_outer.mapError Malformation.encoding).bind carries_ofBody

/-- What comes of an exchange in an operation comes of it in the envelope around it. -/
theorem turns_decode {outcome : Message → Except DecodeError Message → Prop}
    (turns : Turns (Envelope.Exchanges change) outcome ofEnvelope) :
    Turns (ChangesOperation change) outcome decode := by
  have decoded : decode = fun frame =>
      (Envelope.ofFrame frame).mapError .ofMalformation >>= ofEnvelope := by
    funext frame
    unfold decode
    cases Envelope.ofFrame frame <;> rfl
  rw [decoded]
  exact (Envelope.carries_ofFrame.mapError _).bind turns

theorem ofEnvelope_refuses :
    Turns (Envelope.Exchanges fun tag before after => ∃ kind,
        RequestKind.ofTag? tag = some kind ∧ Request.ChangesText Spoils kind before after)
      (fun message outcome => ∃ response, message.request.kind.response? = some response ∧
        outcome = .error (.refused ⟨message.id, response, .protocolError,
          "LDAPString is not valid UTF-8"⟩))
      ofEnvelope := by
  rintro ⟨id, ⟨tag, value⟩, controls⟩ _ message ⟨content, ⟨kind, known, place⟩, rfl⟩ accepted
  obtain ⟨read, -, id', -⟩ := ofEnvelope_eq_ok_iff.1 accepted
  rw [Request.ofElement_eq known] at read
  obtain ⟨response, answered⟩ := Request.response_of_changesText place
  have refused : Request.ofElement ⟨tag, content⟩ = .error Fault.invalidText := by
    rw [Request.ofElement_eq known]
    exact Request.refuses_ofValue kind place read
  have fallback : ResponseKind.forTag tag = response := by
    simp only [ResponseKind.forTag, known, Option.bind_some, answered, Option.getD_some]
  refine ⟨response, Request.kind_of_ofValue read ▸ answered, ?_⟩
  simp only [ofEnvelope, refused, Fault.invalidText, fallback, id']
  rfl

theorem ofEnvelope_carries :
    Carries (Envelope.Exchanges fun tag before after => ∃ kind,
        RequestKind.ofTag? tag = some kind ∧ Request.ChangesOctets (Becomes octets) kind before after)
      (fun message message' => message' = { message with request := message.request.withOctets octets })
      ofEnvelope := by
  rintro ⟨id, ⟨tag, value⟩, controls⟩ _ message ⟨content, ⟨kind, known, place⟩, rfl⟩ accepted
  obtain ⟨read, passes, rest⟩ := ofEnvelope_eq_ok_iff.1 accepted
  rw [Request.ofElement_eq known] at read
  obtain ⟨_, rfl, read'⟩ := Request.carries_ofValue kind place read
  rw [← Request.ofElement_eq known] at read'
  rw [← Request.kind_withOctets octets] at passes
  exact ⟨_, rfl, ofEnvelope_eq_ok_iff.2 ⟨read', passes, rest⟩⟩

/-- Invalid text refuses its request and nothing else, and octet strings are taken as they are.
Wherever in the operation of an accepted message a text is spoiled, the message is refused under
its number, with the answer that its request would have had; it is never malformed, and never
taken. -/
theorem invalid_text_refused {frame frame' : Octets} {message : Message}
    (accepted : decode frame = .ok message) :
    (ChangesText Spoils frame frame' →
      ∃ response, message.request.kind.response? = some response ∧
        decode frame' = .error (.refused ⟨message.id, response, .protocolError,
          "LDAPString is not valid UTF-8"⟩)) ∧
    ∀ octets, ChangesOctets (Becomes octets) frame frame' →
      decode frame' = .ok { message with request := message.request.withOctets octets } := by
  refine ⟨fun place => turns_decode ofEnvelope_refuses place accepted, fun octets place => ?_⟩
  obtain ⟨_, rfl, read⟩ := turns_decode ofEnvelope_carries place accepted
  exact read

def segmentFrame (segment : Octets) : Octets :=
  Element.write Tag.sequence (writeInteger Tag.integer 7 ++ Element.write RequestKind.search.tag
    (writeText Tag.octetString "" ++ (writeInteger Tag.enumerated 2 ++
      (writeInteger Tag.enumerated 0 ++ (writeInteger Tag.integer 0 ++ (writeInteger Tag.integer 0 ++
      (writeBoolean false ++ (Element.write Tag.Filter.not (Element.write Tag.Filter.substrings
        (writeText Tag.octetString "cn" ++
          Element.write Tag.sequence (Element.write Tag.Substring.any segment))) ++
      Element.write Tag.sequence []))))))))

def saslFrame (credentials : Octets) : Octets :=
  Element.write Tag.sequence (writeInteger Tag.integer 7 ++ Element.write RequestKind.bind.tag
    (writeInteger Tag.integer 3 ++ (writeText Tag.octetString "" ++
      Element.write Tag.Bind.sasl (writeText Tag.octetString "X" ++
        Element.write Tag.octetString credentials))))

theorem changesText_segmentFrame :
    ChangesText Spoils (segmentFrame [0x61]) (segmentFrame [0xff]) := by
  have segment : SubstringsAssertion.ChangesText Spoils
      (writeText Tag.octetString "cn" ++
        Element.write Tag.sequence (Element.write Tag.Substring.any [0x61]))
      (writeText Tag.octetString "cn" ++
        Element.write Tag.sequence (Element.write Tag.Substring.any [0xff])) :=
    .inr (.write_later rfl (by decide) (.write_last rfl (by decide) rfl
      ⟨0, .write_last rfl (by decide) rfl rfl⟩))
  refine .write_last rfl (by decide +kernel) (by decide +kernel) (.write_later rfl (by decide +kernel)
    (.write_last rfl (by decide +kernel) (by decide +kernel) ⟨.search, rfl, .inr (.inl ?_)⟩))
  -- past the base, four numbers and the flag
  iterate 6 refine .write_later rfl (by decide +kernel) ?_
  exact .write_here rfl (by decide) rfl
    (.negation (.write_last rfl (by decide) rfl (.substrings segment)))

theorem changesOctets_saslFrame :
    ChangesOctets (Becomes [0xff]) (saslFrame [1]) (saslFrame [0xff]) := by
  refine .write_last rfl (by decide +kernel) (by decide +kernel) (.write_later rfl (by decide +kernel)
    (.write_last rfl (by decide +kernel) (by decide +kernel) ⟨.bind, rfl, ?_⟩))
  -- past the version and the name
  iterate 2 refine .write_later rfl (by decide +kernel) ?_
  exact .write_last rfl (by decide) rfl
    (.inr ⟨rfl, .write_later rfl (by decide) (.write_last rfl (by decide) rfl rfl)⟩)

def letterSearch : Message where
  id := 7
  request := .search {
    base := ""
    scope := .subtree
    filter := .not (.substrings { attr := "cn", any := ["a"] }) }

theorem decode_segmentFrame : decode (segmentFrame [0x61]) = .ok letterSearch := by
  have segment : ["a"] ≠ [] := List.cons_ne_nil _ _
  have form : letterSearch.request.HasForm :=
    ⟨by decide, by decide, .not (.substrings rfl (.inr (.inl segment))), by decide⟩
  have written : segmentFrame [0x61] = letterSearch.write := by decide +kernel
  rw [written]
  exact decode_write ⟨by decide, form, .inr (.inr (by decide))⟩ (by decide +kernel)

def saslBind (credentials : Octets) : Message where
  id := 7
  request := .bind ⟨3, "", .sasl "X" (some credentials)⟩

theorem decode_saslFrame : decode (saslFrame [1]) = .ok (saslBind [1]) := by
  have form : (saslBind [1]).request.HasForm := show 3 < 256 by decide
  have written : saslFrame [1] = (saslBind [1]).write := by decide +kernel
  rw [written]
  exact decode_write ⟨by decide, form, .inr (.inr (by decide))⟩ (by decide +kernel)

theorem invalid_text_refused_segment :
    decode (segmentFrame [0x61]) = .ok letterSearch ∧
    decode (segmentFrame [0xff]) = .error (.refused ⟨7, .searchDone, .protocolError,
      "LDAPString is not valid UTF-8"⟩) ∧
    decode (saslFrame [1]) = .ok (saslBind [1]) ∧
    decode (saslFrame [0xff]) = .ok (saslBind [0xff]) := by
  obtain ⟨response, answered, refused⟩ :=
    (invalid_text_refused decode_segmentFrame).1 changesText_segmentFrame
  cases answered
  exact ⟨decode_segmentFrame, refused, decode_saslFrame,
    (invalid_text_refused decode_saslFrame).2 _ changesOctets_saslFrame⟩

end Message

end LdapService

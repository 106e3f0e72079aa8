import LdapService.Proofs.Message.Accepted
import LdapService.Proofs.Session.Refusals
import Mathlib.Computability.RegularExpressions

/-!
Which segments make a substrings filter. The reader goes from segment to segment and looks at what
it has collected; what it takes in the end is a regular language of tags. Both are compared with
the segments that an assertion has: the run of the reader collects exactly these, and the
words of the grammar are exactly their tags. It is also shown that the reader need not look at all
it has: the initial segment can be told by a count.
-/

namespace LdapService

open Ber

namespace Segment

/-- An initial segment at most, any number of them in between, and a final one at most. -/
def grammar : RegularExpression UInt8 :=
  (1 + .char Tag.Substring.initial) * .star (.char Tag.Substring.any) *
    (1 + .char Tag.Substring.final)

def Ordered (segments : List Segment) : Prop :=
  segments.map Segment.choice ∈ grammar.matches'

instance (segments : List Segment) : Decidable (Ordered segments) :=
  decidable_of_iff _ (RegularExpression.rmatch_iff_matches' grammar _)

section Words

variable {segments : List Segment} {tag : UInt8} {first second : RegularExpression UInt8}

theorem matches_mul : segments.map choice ∈ (first * second).matches' ↔
    ∃ front back, segments = front ++ back ∧ front.map choice ∈ first.matches' ∧
      back.map choice ∈ second.matches' := by
  rw [RegularExpression.matches'_mul, Language.mem_mul]
  constructor
  · rintro ⟨one, here, other, there, joined⟩
    obtain ⟨front, back, rfl, rfl, rfl⟩ := List.map_eq_append_iff.1 joined.symm
    exact ⟨front, back, rfl, here, there⟩
  · rintro ⟨front, back, rfl, here, there⟩
    exact ⟨_, here, _, there, List.map_append.symm⟩

theorem matches_optional : segments.map choice ∈ (1 + RegularExpression.char tag).matches' ↔
    ∃ text : Option String, segments = text.toList.map (Segment.mk tag) := by
  rw [RegularExpression.matches'_add, Language.mem_add, RegularExpression.matches'_epsilon,
    Language.mem_one, RegularExpression.matches'_char]
  constructor
  · rintro (nothing | single)
    · exact ⟨none, List.map_eq_nil_iff.1 nothing⟩
    · obtain ⟨⟨choice, text⟩, rfl, rfl⟩ := List.map_eq_singleton_iff.1 single
      exact ⟨some text, rfl⟩
  · rintro ⟨none | text, rfl⟩
    · exact .inl rfl
    · exact .inr rfl

theorem matches_star : segments.map choice ∈ (RegularExpression.star (.char tag)).matches' ↔
    ∃ texts : List String, segments = texts.map (Segment.mk tag) := by
  rw [RegularExpression.matches'_star, RegularExpression.matches'_char, Language.mem_kstar]
  constructor
  · rintro ⟨words, joined, each⟩
    refine ⟨segments.map text, ?_⟩
    have same : ∀ segment ∈ segments, segment.choice = tag := by
      intro segment mem
      have listed : segment.choice ∈ words.flatten := joined ▸ List.mem_map_of_mem mem
      obtain ⟨word, isWord, inside⟩ := List.mem_flatten.1 listed
      rw [Set.mem_singleton_iff.1 (each word isWord)] at inside
      exact List.mem_singleton.1 inside
    rw [List.map_map]
    refine (List.map_id segments).symm.trans (List.map_congr_left fun segment mem => ?_)
    rw [← same segment mem]
    rfl
  · rintro ⟨texts, rfl⟩
    refine ⟨texts.map fun _ => [tag], ?_, ?_⟩
    · induction texts with
      | nil => rfl
      | cons text texts ih => simp only [List.map_cons, List.flatten_cons, ih]; rfl
    · intro word mem
      obtain ⟨text, -, rfl⟩ := List.mem_map.1 mem
      rfl

end Words

/-- Why segments are turned away: there are none, or this is the first that cannot follow those
before it. -/
inductive Objection : List Segment → Rejection → Prop
  | empty : Objection [] .emptySubstrings
  | outOfOrder {before : List Segment} {segment : Segment} (ordered : Ordered before)
      (breaks : ¬Ordered (before ++ [segment])) (after : List Segment) :
      Objection (before ++ segment :: after) (.substringOutOfOrder segment.choice)

theorem exists_objection {segments : List Segment} (other : ¬(segments ≠ [] ∧ Ordered segments)) :
    ∃ cause, Objection segments cause := by
  induction segments using List.reverseRecOn with
  | nil => exact ⟨_, .empty⟩
  | append_singleton before segment ih =>
    have breaks : ¬Ordered (before ++ [segment]) := fun ordered =>
      other ⟨List.append_ne_nil_of_right_ne_nil _ (List.cons_ne_nil _ _), ordered⟩
    by_cases whole : Ordered before
    · exact ⟨_, .outOfOrder whole breaks []⟩
    · obtain ⟨cause, objection⟩ := ih fun accepted => whole accepted.2
      cases objection with
      | empty => exact absurd (by decide) whole
      | outOfOrder ordered earlier after =>
        rw [List.append_assoc, List.cons_append]
        exact ⟨_, .outOfOrder ordered earlier (after ++ [segment])⟩

theorem Objection.code {segments : List Segment} {cause : Rejection}
    (objection : Objection segments cause) : cause.code = .protocolError := by
  cases objection <;> rfl

end Segment

namespace SubstringsAssertion

theorem ordered_iff {segments : List Segment} (attr : String) :
    Segment.Ordered segments ↔
      ∃ assertion : SubstringsAssertion, assertion.attr = attr ∧ assertion.rule = none ∧
        assertion.segments = segments := by
  simp only [Segment.Ordered, Segment.grammar, Segment.matches_mul, Segment.matches_optional,
    Segment.matches_star]
  constructor
  · rintro ⟨_, _, rfl, ⟨_, _, rfl, ⟨initial, rfl⟩, any, rfl⟩, final, rfl⟩
    exact ⟨{ attr, initial, any, final }, rfl, rfl, rfl⟩
  · rintro ⟨assertion, -, -, rfl⟩
    exact ⟨_, _, rfl, ⟨_, _, rfl, ⟨_, rfl⟩, _, rfl⟩, _, rfl⟩

theorem collect_eq_ok_iff {segments : List Segment} {attr : String}
    {collected : SubstringsAssertion} :
    ({ attr } : SubstringsAssertion).collect segments = .ok collected ↔
      collected.attr = attr ∧ collected.rule = none ∧ collected.segments = segments := by
  constructor
  · exact segments_of_collect
  · rintro ⟨rfl, ruleless, rfl⟩
    exact collect_segments ruleless

theorem eq_of_segments {one other : SubstringsAssertion} (attr : one.attr = other.attr)
    (rule : one.rule = none) (rule' : other.rule = none) (same : one.segments = other.segments) :
    one = other := by
  have collected := collect_eq_ok_iff.2 ⟨attr, rule, same⟩
  rw [collect_segments rule'] at collected
  exact (Except.ok.inj collected).symm

theorem ordered_iff_collect {segments : List Segment} (attr : String) :
    Segment.Ordered segments ↔
      ∃ collected, ({ attr } : SubstringsAssertion).collect segments = .ok collected := by
  simp only [ordered_iff attr, collect_eq_ok_iff]

section Content

variable {content : Octets} {attr : String} {segments : List Segment}

theorem ofValue_eq_ok_iff {assertion : SubstringsAssertion}
    (spelled : Spelled content attr segments) :
    ofValue content = .ok assertion ↔
      segments ≠ [] ∧ assertion.attr = attr ∧ assertion.rule = none ∧
        assertion.segments = segments := by
  rw [ofValue_spelled spelled, Reader.except_bind_eq_ok_iff]
  simp only [collect_eq_ok_iff]
  by_cases none : segments = []
  · simp only [none, if_true]
    exact iff_of_false (fun ⟨_, _, rejected⟩ => nomatch rejected) fun h => h.1 rfl
  · simp only [none, if_false, Except.ok.injEq, exists_eq_right, ne_eq, not_false_eq_true,
      true_and]

theorem ofValue_of_objection (spelled : Spelled content attr segments) {cause : Rejection}
    (objection : Segment.Objection segments cause) : ofValue content = .error (.rejected cause) := by
  rw [ofValue_spelled spelled]
  cases objection with
  | empty => rfl
  | @outOfOrder before segment ordered breaks after =>
    obtain ⟨between, collected⟩ := (ordered_iff_collect attr).1 ordered
    cases taken : between.addSegment segment.element with
    | ok next =>
      have further : ({ attr } : SubstringsAssertion).collect (before ++ [segment]) = .ok next := by
        rw [collect_append, collected, Reader.ok_bind, collect_singleton, taken]
      exact absurd ((ordered_iff_collect attr).2 ⟨next, further⟩) breaks
    | error fault =>
      obtain rfl := fault_of_addSegment taken
      rw [collect_append, collected, Reader.ok_bind, collect, List.foldlM_cons, taken]
      rfl

end Content

section Counting

structure Counted where
  assertion : SubstringsAssertion
  count : Nat

namespace Counted

variable {counted next : Counted} {element : Element}

/-- The initial segment is taken by the count, the others by what has been taken. -/
def place (counted : Counted) (element : Element) : Except Fault SubstringsAssertion := do
  let text ← Reader.textOf element.value
  if element.tag = Tag.Substring.initial ∧ counted.count = 0 then
    return { counted.assertion with initial := some text }
  else if element.tag = Tag.Substring.any ∧ counted.assertion.final = none then
    return { counted.assertion with any := counted.assertion.any ++ [text] }
  else if element.tag = Tag.Substring.final ∧ counted.assertion.final = none then
    return { counted.assertion with final := some text }
  else reject (.substringOutOfOrder element.tag)

def take (counted : Counted) (element : Element) : Except Fault Counted :=
  (Counted.mk · (counted.count + 1)) <$> counted.place element

/-- A segment has been counted exactly if there is one. -/
def InStep (counted : Counted) : Prop :=
  counted.count = 0 ↔ ¬counted.assertion.HasSegment

theorem start_inStep (attr : String) : InStep ⟨{ attr }, 0⟩ :=
  iff_of_true rfl (by simp [HasSegment])

theorem place_eq (inStep : counted.InStep) (element : Element) :
    counted.place element = addSegment counted.assertion element := by
  have start : counted.count = 0 ↔ counted.assertion.initial = none ∧ counted.assertion.any = [] ∧
      counted.assertion.final = none := by
    refine Iff.trans inStep ?_
    simp only [HasSegment, not_or, ne_eq, not_not]
  simp only [place, addSegment, start]

theorem count_take (h : counted.take element = .ok next) : next.count = counted.count + 1 := by
  obtain ⟨taken, -, rfl⟩ := Reader.of_map_ok h
  rfl

theorem InStep.take (inStep : counted.InStep) (h : counted.take element = .ok next) :
    next.InStep := by
  obtain ⟨taken, placed, rfl⟩ := Reader.of_map_ok h
  rw [place_eq inStep] at placed
  exact iff_of_false (Nat.succ_ne_zero _) (not_not.2 (addSegment_adds placed).2)

theorem assertion_take (inStep : counted.InStep) (element : Element) :
    assertion <$> counted.take element = addSegment counted.assertion element := by
  rw [take, place_eq inStep, ← comp_map]
  exact id_map _

end Counted

def ofCounted (value : Octets) : Except Fault SubstringsAssertion := do
  let (attr, segments) ← Reader.run value (Reader.textAnd Tag.sequence)
  let counted ← foldElements Fault.encoding Counted.take ⟨{ attr }, 0⟩ segments
  if counted.count = 0 then reject .emptySubstrings
  return counted.assertion

theorem ofCounted_eq (value : Octets) : ofCounted value = ofValue value := by
  refine bind_congr fun ⟨attr, segments⟩ => ?_
  have same : Counted.assertion <$> foldElements Fault.encoding Counted.take ⟨{ attr }, 0⟩ segments =
      foldElements Fault.encoding addSegment { attr } segments :=
    map_foldElements Counted.assertion (fun _ element inStep => Counted.assertion_take inStep element)
      (fun _ _ _ inStep steps => inStep.take steps) (Counted.start_inStep attr) segments
  simp only [← same]
  cases fold : foldElements Fault.encoding Counted.take ⟨{ attr }, 0⟩ segments with
  | error error => rfl
  | ok counted =>
    have empty : counted.count = 0 ↔ segments.isEmpty = true := by
      rw [List.isEmpty_iff]
      constructor
      · intro none
        have some (counted : Counted) (element : Element) (next : Counted)
            (steps : counted.take element = .ok next) : next.count ≠ 0 := by
          rw [Counted.count_take steps]
          exact Nat.succ_ne_zero _
        by_contra nonempty
        exact foldElements_makes some nonempty fold none
      · rintro rfl
        rw [foldElements_nil] at fold
        cases fold
        rfl
    simp only [empty, Reader.ok_bind]
    rfl

end Counting

end SubstringsAssertion

namespace Message

/-- Substrings filters are accepted by their grammar. In a search that is sound around such a
filter, wherever in others it stands, the segments are taken if there are any and their choices are
in order, and the assertion has just these. Otherwise there is an objection, and the search is
refused for it; the client is told, and the session goes on. A reader that counts the segments, and
takes an initial one only while the count is zero, comes to the same. -/
theorem substrings_accepted_iff {frame value content : Octets} {id levels : Nat}
    {controls : List Control} {request : SearchRequest} {surrounding : request.Surrounding}
    {outer : Element} {build : Filter → Filter} {attr : String} {segments : List Segment}
    (sound : Envelope.ofFrame frame = .ok ⟨id, ⟨RequestKind.search.tag, value⟩, controls⟩)
    (uncritical : ∀ control ∈ controls, control.critical = false)
    (search : Spells value (surrounding.elements outer))
    (encloses : Filter.Encloses ⟨Tag.Filter.substrings, content⟩ (levels + 1) Filter.maxDepth
      outer build)
    (spelled : SubstringsAssertion.Spelled content attr segments) :
    ((∃ message, decode frame = .ok message) ↔ segments ≠ [] ∧ Segment.Ordered segments) ∧
    (∀ message, decode frame = .ok message → ∃ assertion : SubstringsAssertion,
      assertion.attr = attr ∧ assertion.rule = none ∧ assertion.segments = segments ∧
      message = ⟨id, .search { request with filter := build (.substrings assertion) }, controls⟩) ∧
    (¬(segments ≠ [] ∧ Segment.Ordered segments) → ∃ cause, Segment.Objection segments cause) ∧
    (∀ cause, Segment.Objection segments cause →
      Refusal.Answers ⟨id, .searchDone, .protocolError, cause.message⟩ frame) ∧
    SubstringsAssertion.ofCounted content = SubstringsAssertion.ofValue content := by
  have read : SearchRequest.ofValue value =
      (fun assertion => { request with filter := build (.substrings assertion) }) <$>
        SubstringsAssertion.ofValue content := by
    rw [SearchRequest.Surrounding.ofValue search, encloses.ofElement, Filter.ofElement_substrings,
      ← comp_map, ← comp_map]
    rfl
  have decoded (message : Message) : decode frame = .ok message ↔
      ∃ assertion : SubstringsAssertion, (segments ≠ [] ∧ assertion.attr = attr ∧
        assertion.rule = none ∧ assertion.segments = segments) ∧
        message = ⟨id, .search { request with filter := build (.substrings assertion) }, controls⟩ := by
    rw [search_decoded_iff sound uncritical, read]
    simp only [Reader.except_map_eq_ok_iff, SubstringsAssertion.ofValue_eq_ok_iff spelled]
    constructor
    · rintro ⟨_, ⟨assertion, has, rfl⟩, same⟩
      exact ⟨assertion, has, same⟩
    · rintro ⟨assertion, has, same⟩
      exact ⟨_, ⟨assertion, has, rfl⟩, same⟩
  refine ⟨?_, ?_, Segment.exists_objection, ?_, SubstringsAssertion.ofCounted_eq content⟩
  · rw [SubstringsAssertion.ordered_iff attr]
    constructor
    · rintro ⟨message, accepted⟩
      obtain ⟨assertion, ⟨some, has⟩, -⟩ := (decoded message).1 accepted
      exact ⟨some, assertion, has⟩
    · rintro ⟨some, assertion, has⟩
      exact ⟨_, (decoded _).2 ⟨assertion, ⟨some, has⟩, rfl⟩⟩
  · intro message accepted
    obtain ⟨assertion, ⟨-, sameAttr, ruleless, has⟩, same⟩ := (decoded message).1 accepted
    exact ⟨assertion, sameAttr, ruleless, has, same⟩
  · intro cause objection
    rw [SubstringsAssertion.ofValue_of_objection spelled objection] at read
    have refused := search_refused sound read
    rwa [objection.code] at refused

def segmentsElement (segments : List Segment) : Element :=
  ⟨Tag.Filter.not, Element.write Tag.Filter.substrings (writeText Tag.octetString "cn" ++
    Element.write Tag.sequence (segments.flatMap fun segment => segment.element.octets))⟩

def wholeSubtree : SearchRequest where
  base := ""
  scope := .subtree
  filter := .always

def segmentsFrame (segments : List Segment) : Octets :=
  Response.message 7 (Element.write RequestKind.search.tag
    (wholeSubtree.writeAround (segmentsElement segments)) ++ Control.writeAll [])

theorem segmentsFrame_sound {segments : List Segment}
    (single : ∀ segment ∈ segments, isMultiOctetTag segment.element.tag = false)
    (fits : Octets.Fits (segmentsFrame segments)) :
    ∃ (value content : Octets) (surrounding : wholeSubtree.Surrounding),
      Envelope.ofFrame (segmentsFrame segments) = .ok ⟨7, ⟨RequestKind.search.tag, value⟩, []⟩ ∧
      Spells value (surrounding.elements (segmentsElement segments)) ∧
      Filter.Encloses ⟨Tag.Filter.substrings, content⟩ 63 Filter.maxDepth
        (segmentsElement segments) .not ∧
      SubstringsAssertion.Spelled content "cn" segments := by
  have value := Element.fits_of_write (Element.fits_of_write fits).right.left
  have content := Element.fits_of_write (SearchRequest.fits_of_writeAround value)
  have list := Element.fits_of_write content.right
  have negation : isMultiOctetTag (segmentsElement segments).tag = false :=
    show isMultiOctetTag Tag.Filter.not = false from rfl
  obtain ⟨surrounding, spells⟩ :=
    SearchRequest.Surrounding.spells_writeAround negation (Nat.zero_le _) (Nat.zero_le _) value
  have sound := @ofFrame_write 7
    ⟨RequestKind.search.tag, wholeSubtree.writeAround (segmentsElement segments)⟩ [] (by decide)
    (single_tag .search) fits
  refine ⟨_, _, surrounding, sound, spells, .negation (.written rfl content) .here, ?_⟩
  exact ⟨_, .write rfl (Element.fits_of_write content.left) (.written rfl list),
    Spells.flatMap Segment.element single list⟩

theorem substrings_accepted_iff_samples :
    decode (segmentsFrame [⟨0x80, "ab"⟩, ⟨0x81, "c"⟩, ⟨0x82, "z"⟩]) =
      .ok ⟨7, .search { wholeSubtree with filter := .not (.substrings
        { attr := "cn", initial := some "ab", any := ["c"], final := some "z" }) }, []⟩ ∧
    Refusal.Answers ⟨7, .searchDone, .protocolError, "Substring choice 0x80 out of order"⟩
      (segmentsFrame [⟨0x81, "c"⟩, ⟨0x80, "ab"⟩]) := by
  constructor
  · obtain ⟨value, content, surrounding, sound, search, encloses, spelled⟩ :=
      @segmentsFrame_sound [⟨0x80, "ab"⟩, ⟨0x81, "c"⟩, ⟨0x82, "z"⟩] (by decide) (by decide +kernel)
    obtain ⟨accepted, decoded, -⟩ :=
      substrings_accepted_iff sound (List.forall_mem_nil _) search encloses spelled
    obtain ⟨message, taken⟩ := accepted.2 ⟨List.cons_ne_nil _ _, by decide⟩
    obtain ⟨assertion, attr, ruleless, has, rfl⟩ := decoded message taken
    obtain rfl : assertion =
        { attr := "cn", initial := some "ab", any := ["c"], final := some "z" } :=
      SubstringsAssertion.eq_of_segments attr ruleless rfl has
    exact taken
  · obtain ⟨value, content, surrounding, sound, search, encloses, spelled⟩ :=
      @segmentsFrame_sound [⟨0x81, "c"⟩, ⟨0x80, "ab"⟩] (by decide) (by decide +kernel)
    obtain ⟨-, -, -, refused, -⟩ :=
      substrings_accepted_iff sound (List.forall_mem_nil _) search encloses spelled
    have answers := refused _
      (@Segment.Objection.outOfOrder [⟨0x81, "c"⟩] ⟨0x80, "ab"⟩ (by decide) (by decide) [])
    have told : (Rejection.substringOutOfOrder 0x80).message = "Substring choice 0x80 out of order" := by
      decide +kernel
    rwa [told] at answers

end Message

end LdapService

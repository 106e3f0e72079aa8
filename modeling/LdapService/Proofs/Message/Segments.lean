import LdapService.Proofs.Message.CanonicalForm
import LdapService.Proofs.Message.Spelled

/-!
The segments of a substrings filter, one behind the other. The reader takes them up one by one
and looks at what it has; whatever it has then has exactly the segments that were taken up.
-/

namespace LdapService

open Ber

structure Segment where
  choice : UInt8
  text : String

def Segment.element (segment : Segment) : Element :=
  ⟨segment.choice, Text.utf8 segment.text⟩

namespace SubstringsAssertion

def segments (assertion : SubstringsAssertion) : List Segment :=
  assertion.initial.toList.map (Segment.mk Tag.Substring.initial) ++
    assertion.any.map (Segment.mk Tag.Substring.any) ++
    assertion.final.toList.map (Segment.mk Tag.Substring.final)

theorem segments_ne_nil {assertion : SubstringsAssertion} :
    assertion.segments ≠ [] ↔ assertion.HasSegment := by
  obtain ⟨attr, rule, initial, any, final⟩ := assertion
  cases initial <;> cases final <;> simp [segments, HasSegment]

def collect (assertion : SubstringsAssertion) (segments : List Segment) :
    Except Fault SubstringsAssertion :=
  segments.foldlM (fun collected segment => addSegment collected segment.element) assertion

section Collect

variable {assertion next : SubstringsAssertion} {segment : Segment}

theorem addSegment_eq (assertion : SubstringsAssertion) (segment : Segment) :
    addSegment assertion segment.element =
      if segment.choice = Tag.Substring.initial ∧ assertion.initial = none ∧ assertion.any = []
          ∧ assertion.final = none then
        .ok { assertion with initial := some segment.text }
      else if segment.choice = Tag.Substring.any ∧ assertion.final = none then
        .ok { assertion with any := assertion.any ++ [segment.text] }
      else if segment.choice = Tag.Substring.final ∧ assertion.final = none then
        .ok { assertion with final := some segment.text }
      else reject (.substringOutOfOrder segment.choice) := by
  rw [addSegment, Segment.element, Reader.textOf_utf8]
  rfl

theorem segments_of_addSegment (h : addSegment assertion segment.element = .ok next) :
    next.attr = assertion.attr ∧ next.rule = assertion.rule ∧
      next.segments = assertion.segments ++ [segment] := by
  obtain ⟨choice, text⟩ := segment
  obtain ⟨attr, rule, initial, any, final⟩ := assertion
  rw [addSegment_eq] at h
  split at h
  · next first =>
    obtain ⟨rfl, rfl, rfl, rfl⟩ := first
    cases h
    exact ⟨rfl, rfl, rfl⟩
  split at h
  · next between =>
    obtain ⟨rfl, rfl⟩ := between
    cases h
    exact ⟨rfl, rfl, by simp [segments]⟩
  split at h
  · next last =>
    obtain ⟨rfl, rfl⟩ := last
    cases h
    exact ⟨rfl, rfl, by simp [segments]⟩
  · cases h

/-- A text is never at fault, only its place is. -/
theorem fault_of_addSegment {fault : Fault}
    (h : addSegment assertion segment.element = .error fault) :
    fault = .rejected (.substringOutOfOrder segment.choice) := by
  rw [addSegment_eq] at h
  split at h
  · cases h
  split at h
  · cases h
  split at h
  · cases h
  · cases h
    rfl

theorem segments_of_collect {segments : List Segment}
    (h : assertion.collect segments = .ok next) :
    next.attr = assertion.attr ∧ next.rule = assertion.rule ∧
      next.segments = assertion.segments ++ segments := by
  induction segments generalizing assertion with
  | nil =>
    cases h
    exact ⟨rfl, rfl, (List.append_nil _).symm⟩
  | cons segment rest ih =>
    obtain ⟨between, steps, h⟩ := Reader.of_bind_ok h
    obtain ⟨attr, rule, taken⟩ := segments_of_addSegment steps
    obtain ⟨attr', rule', collected⟩ := ih h
    refine ⟨attr'.trans attr, rule'.trans rule, ?_⟩
    rw [collected, taken, List.append_assoc]
    rfl

theorem collect_append (front back : List Segment) :
    assertion.collect (front ++ back) =
      assertion.collect front >>= fun between => between.collect back :=
  List.foldlM_append

theorem collect_singleton (segment : Segment) :
    assertion.collect [segment] = addSegment assertion segment.element :=
  bind_pure _

theorem collect_any (more : assertion.final = none) (texts : List String) :
    assertion.collect (texts.map (Segment.mk Tag.Substring.any)) =
      .ok { assertion with any := assertion.any ++ texts } := by
  induction texts generalizing assertion with
  | nil => rw [List.append_nil]; rfl
  | cons text texts ih =>
    have notInitial : Tag.Substring.any ≠ Tag.Substring.initial := by decide
    have step : addSegment assertion (Segment.mk Tag.Substring.any text).element =
        .ok { assertion with any := assertion.any ++ [text] } := by
      rw [addSegment_eq, if_neg fun h => notInitial h.1, if_pos ⟨rfl, more⟩]
    rw [List.map_cons, collect, List.foldlM_cons, step, Reader.ok_bind]
    have later := @ih { assertion with any := assertion.any ++ [text] } more
    rw [List.append_assoc] at later
    exact later

theorem collect_final (more : assertion.final = none) (final : Option String) :
    assertion.collect (final.toList.map (Segment.mk Tag.Substring.final)) =
      .ok { assertion with final } := by
  obtain ⟨attr, rule, initial, any, _⟩ := assertion
  cases more
  cases final with
  | none => rfl
  | some text =>
    have notInitial : Tag.Substring.final ≠ Tag.Substring.initial := by decide
    have notAny : Tag.Substring.final ≠ Tag.Substring.any := by decide
    have step : addSegment { attr, rule, initial, any } (Segment.mk Tag.Substring.final text).element =
        .ok { attr, rule, initial, any, final := some text } := by
      rw [addSegment_eq, if_neg fun h => notInitial h.1, if_neg fun h => notAny h.1,
        if_pos ⟨rfl, rfl⟩]
    exact (collect_singleton _).trans step

theorem collect_segments (ruleless : assertion.rule = none) :
    ({ attr := assertion.attr } : SubstringsAssertion).collect assertion.segments =
      .ok assertion := by
  obtain ⟨attr, rule, initial, any, final⟩ := assertion
  cases ruleless
  have first : ({ attr } : SubstringsAssertion).collect
      (initial.toList.map (Segment.mk Tag.Substring.initial)) = .ok { attr, initial } := by
    cases initial with
    | none => rfl
    | some text =>
      rw [Option.toList_some, List.map_singleton, collect_singleton, addSegment_eq,
        if_pos ⟨rfl, rfl, rfl, rfl⟩]
  rw [segments, collect_append, collect_append, first, Reader.ok_bind, collect_any rfl,
    Reader.ok_bind, collect_final rfl, List.nil_append]

end Collect

section Content

variable {content : Octets} {attr : String} {segments : List Segment}

def Spelled (content : Octets) (attr : String) (segments : List Segment) : Prop :=
  ∃ list, Spells content [textElement attr, ⟨Tag.sequence, list⟩] ∧
    Spells list (segments.map Segment.element)

theorem ofValue_spelled (spelled : Spelled content attr segments) :
    ofValue content = ({ attr } : SubstringsAssertion).collect segments >>= fun collected =>
      if segments = [] then reject .emptySubstrings else .ok collected := by
  obtain ⟨list, spells, listed⟩ := spelled
  have empty : list.isEmpty = true ↔ segments = [] := by
    rw [List.isEmpty_iff, listed.eq_nil_iff, List.map_eq_nil_iff]
  change ((liftM (Reader.run content (Reader.textAnd Tag.sequence)) : Except Fault _) >>= _) = _
  rw [Reader.lift_ok (Reader.textAnd_eq_ok_iff.2 spells), Reader.ok_bind]
  simp only [listed.foldElements, List.foldlM_map, empty]
  refine bind_congr fun collected => ?_
  split
  · rfl
  · rfl

end Content

section Written

theorem optionalPart_segments {tag : UInt8} (text : Option String) :
    Response.optionalPart tag (text.map Text.utf8) =
      (text.toList.map (Segment.mk tag)).flatMap fun segment => segment.element.octets := by
  cases text with
  | none => rfl
  | some text => exact (List.append_nil _).symm

theorem writeSegments_eq (assertion : SubstringsAssertion) :
    assertion.writeSegments = assertion.segments.flatMap fun segment => segment.element.octets := by
  have between : (assertion.any.map (Segment.mk Tag.Substring.any)).flatMap
      (fun segment => segment.element.octets) = assertion.any.flatMap (writeText Tag.Substring.any) :=
    List.flatMap_map _ _ _
  rw [writeSegments, segments, List.flatMap_append, List.flatMap_append, optionalPart_segments,
    optionalPart_segments, between]

theorem single_of_mem_segments {assertion : SubstringsAssertion} {segment : Segment}
    (mem : segment ∈ assertion.segments) : isMultiOctetTag segment.element.tag = false := by
  have initial : isMultiOctetTag Tag.Substring.initial = false := rfl
  have any : isMultiOctetTag Tag.Substring.any = false := rfl
  have final : isMultiOctetTag Tag.Substring.final = false := rfl
  simp only [segments, List.mem_append, List.mem_map] at mem
  rcases mem with (⟨_, -, rfl⟩ | ⟨_, -, rfl⟩) | ⟨_, -, rfl⟩
  · exact initial
  · exact any
  · exact final

theorem spelled_write {assertion : SubstringsAssertion} (h : Octets.Fits assertion.write) :
    Spelled assertion.write assertion.attr assertion.segments := by
  have attr := Element.fits_of_write h.left
  have list := Element.fits_of_write h.right
  refine ⟨assertion.writeSegments, .write rfl attr (.written rfl list), ?_⟩
  rw [writeSegments_eq] at list ⊢
  exact Spells.flatMap Segment.element (fun _ mem => single_of_mem_segments mem) list

theorem ofValue_write {assertion : SubstringsAssertion} (ruleless : assertion.rule = none)
    (segment : assertion.HasSegment) (h : Octets.Fits assertion.write) :
    ofValue assertion.write = .ok assertion := by
  rw [ofValue_spelled (spelled_write h), collect_segments ruleless, Reader.ok_bind,
    if_neg (segments_ne_nil.2 segment)]

end Written

end SubstringsAssertion

end LdapService

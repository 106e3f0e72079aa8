import LdapService.Proofs.Message.RoundTrip

/-!
What every message that is read has in common, from whatever octets: it has a form,
so writing it and reading it again gives it back. A filter is as high as the levels
that its reading took, so the induction is on these.
-/

namespace LdapService

open Ber Ber.Reader

theorem lt_of_requireSome {bound found : Nat} {number : Int} {cause : Rejection}
    (h : requireSome (natBelow? bound number) cause = .ok found) : found < bound := by
  cases below : natBelow? bound number with
  | none =>
    rw [below] at h
    cases h
  | some found =>
    rw [below] at h
    cases h
    exact (natBelow?_eq_some_iff.1 below).2

namespace Assertion

theorem rule_of_ofValue {value : Octets} {assertion : Assertion}
    (h : ofValue value = .ok assertion) : assertion.rule = none := by
  obtain ⟨rest, h⟩ := of_run_ok h
  obtain ⟨attr, _, -, h⟩ := bind_eq_ok h
  obtain ⟨asserted, _, -, h⟩ := bind_eq_ok h
  obtain ⟨_, _, -, h⟩ := bind_eq_ok h
  cases h
  rfl

end Assertion

namespace SubstringsAssertion

theorem addSegment_adds {assertion next : SubstringsAssertion} {element : Element}
    (h : addSegment assertion element = .ok next) :
    next.rule = assertion.rule ∧ next.HasSegment := by
  obtain ⟨segment, -, h⟩ := of_bind_ok h
  split at h
  · cases h
    exact ⟨rfl, .inl (by simp)⟩
  · split at h
    · cases h
      exact ⟨rfl, .inr (.inl (by simp))⟩
    · split at h
      · cases h
        exact ⟨rfl, .inr (.inr (by simp))⟩
      · cases h

theorem segments_of_ofValue {value : Octets} {assertion : SubstringsAssertion}
    (h : ofValue value = .ok assertion) : assertion.rule = none ∧ assertion.HasSegment := by
  obtain ⟨⟨attr, segments⟩, -, h⟩ := of_bind_ok h
  obtain ⟨folded, fold, h⟩ := of_bind_ok h
  have nonempty : segments ≠ [] := by
    rintro rfl
    cases h
  obtain rfl : folded = assertion := by
    cases segments with
    | nil => exact absurd rfl nonempty
    | cons => exact Except.ok.inj h
  have keeps (state : SubstringsAssertion) (found : Element) (next : SubstringsAssertion)
      (_ : isMultiOctetTag found.tag = false) (kept : state.rule = none)
      (steps : addSegment state found = .ok next) : next.rule = none := by
    rw [(addSegment_adds steps).1, kept]
  have rule := foldElements_keeps keeps rfl fold
  exact ⟨rule, foldElements_makes (fun _ _ _ steps => (addSegment_adds steps).2) nonempty fold⟩

end SubstringsAssertion

namespace Filter

theorem hasForm_of_ofExtensible {value : Octets} {filter : Filter}
    (h : ofExtensible value = .ok filter) : filter.HasForm ∧ filter.height = 1 := by
  obtain ⟨⟨rule, attr, asserted⟩, -, h⟩ := of_bind_ok h
  cases attr with
  | some attr =>
    cases h
    exact ⟨.equality _, rfl⟩
  | none =>
    cases rule with
    | some rule =>
      cases h
      exact ⟨.undefined, rfl⟩
    | none => cases h

theorem heightAll_le {children : List Filter} {bound : Nat}
    (h : ∀ child ∈ children, child.height ≤ bound) : heightAll children ≤ bound := by
  induction children with
  | nil => exact Nat.zero_le _
  | cons child rest ih =>
    obtain ⟨first, others⟩ := List.forall_mem_cons.1 h
    rw [heightAll]
    have := ih others
    omega

theorem hasForm_of_children {levels : Nat} {value : Octets} {children : List Filter}
    (h : mapElements Fault.encoding (ofElement levels) value = .ok children)
    (ih : ∀ {element : Element} {filter : Filter}, isMultiOctetTag element.tag = false →
      ofElement levels element = .ok filter → filter.HasForm ∧ filter.height ≤ levels) :
    (∀ child ∈ children, child.HasForm) ∧ heightAll children ≤ levels := by
  have each : ∀ child ∈ children, child.HasForm ∧ child.height ≤ levels := by
    intro child mem
    obtain ⟨element, single, read⟩ := mapElements_mem h child mem
    exact ih single read
  exact ⟨fun child mem => (each child mem).1, heightAll_le fun child mem => (each child mem).2⟩

theorem hasForm_of_ofElement (levels : Nat) {element : Element} {filter : Filter}
    (single : isMultiOctetTag element.tag = false) (h : ofElement levels element = .ok filter) :
    filter.HasForm ∧ filter.height ≤ levels := by
  induction levels generalizing element filter with
  | zero => cases h
  | succ levels ih =>
    obtain ⟨tag, value⟩ := element
    unfold ofElement at h
    split at h
    · next isAnd =>
      obtain ⟨children, read, rfl⟩ := of_map_ok h
      obtain ⟨each, low⟩ := hasForm_of_children read ih
      exact ⟨.and each, Nat.succ_le_succ low⟩
    split at h
    · next isOr =>
      obtain ⟨children, read, rfl⟩ := of_map_ok h
      obtain ⟨each, low⟩ := hasForm_of_children read ih
      exact ⟨.or each, Nat.succ_le_succ low⟩
    split at h
    · next isNot =>
      obtain ⟨rest, h⟩ := of_run_ok h
      obtain ⟨inner, _, read, h⟩ := bind_eq_ok h
      obtain ⟨child, _, understood, h⟩ := bind_eq_ok h
      obtain ⟨last, _, -, h⟩ := bind_eq_ok h
      have innerSingle := single_of_element (of_mapError_ok read)
      obtain ⟨form, low⟩ := ih innerSingle (of_ofExcept_ok understood)
      cases last with
      | true =>
        cases h
        exact ⟨.not form, Nat.succ_le_succ low⟩
      | false => cases h
    split at h
    · next isEquality =>
      obtain ⟨assertion, read, h⟩ := of_bind_ok h
      cases h
      exact ⟨.equality assertion, Nat.succ_le_succ (Nat.zero_le _)⟩
    split at h
    · next isGreater =>
      obtain ⟨assertion, read, h⟩ := of_bind_ok h
      cases h
      exact ⟨.greaterOrEqual (Assertion.rule_of_ofValue (of_lift_ok read)), Nat.succ_le_succ (Nat.zero_le _)⟩
    split at h
    · next isLess =>
      obtain ⟨assertion, read, h⟩ := of_bind_ok h
      cases h
      exact ⟨.lessOrEqual (Assertion.rule_of_ofValue (of_lift_ok read)), Nat.succ_le_succ (Nat.zero_le _)⟩
    split at h
    · next isSubstrings =>
      obtain ⟨assertion, read, h⟩ := of_bind_ok h
      cases h
      obtain ⟨ruleless, segment⟩ := SubstringsAssertion.segments_of_ofValue read
      exact ⟨.substrings ruleless segment, Nat.succ_le_succ (Nat.zero_le _)⟩
    split at h
    · next isPresent =>
      obtain ⟨attr, read, h⟩ := of_bind_ok h
      cases h
      exact ⟨.present attr, Nat.succ_le_succ (Nat.zero_le _)⟩
    split at h
    · next isExtensible =>
      obtain ⟨form, height⟩ := hasForm_of_ofExtensible h
      rw [height]
      exact ⟨form, Nat.succ_le_succ (Nat.zero_le _)⟩
    · next isAnd isOr isNot isEquality isGreater isLess isSubstrings isPresent isExtensible =>
      cases h
      have unassigned : tag ∉ assignedTags := by
        simp_all [assignedTags]
      exact ⟨.unknown ⟨single, unassigned⟩, Nat.succ_le_succ (Nat.zero_le _)⟩

end Filter

theorem BindRequest.version_of_ofValue {value : Octets} {request : BindRequest}
    (h : ofValue value = .ok request) : request.version < 256 := by
  obtain ⟨_, h⟩ := of_run_ok h
  obtain ⟨number, _, -, h⟩ := bind_eq_ok h
  obtain ⟨version, _, checked, h⟩ := bind_eq_ok h
  obtain ⟨name, _, -, h⟩ := bind_eq_ok h
  obtain ⟨element, _, -, h⟩ := bind_eq_ok h
  obtain ⟨authentication, _, -, h⟩ := bind_eq_ok h
  obtain ⟨_, _, -, h⟩ := bind_eq_ok h
  cases h
  exact lt_of_requireSome (of_ofExcept_ok checked)

theorem SearchRequest.le_of_readLimit {which : SearchLimit} {number : Int} {limit : Nat}
    (h : readLimit which number = .ok limit) : limit ≤ maxInt :=
  Nat.le_of_lt_succ (lt_of_requireSome h)

theorem SearchRequest.hasForm_of_ofValue {value : Octets} {request : SearchRequest}
    (h : ofValue value = .ok request) : (Request.search request).HasForm := by
  obtain ⟨_, h⟩ := of_run_ok h
  obtain ⟨base, _, -, h⟩ := bind_eq_ok h
  obtain ⟨_, _, -, h⟩ := bind_eq_ok h
  obtain ⟨scope, _, -, h⟩ := bind_eq_ok h
  obtain ⟨_, _, -, h⟩ := bind_eq_ok h
  obtain ⟨deref, _, -, h⟩ := bind_eq_ok h
  obtain ⟨_, _, -, h⟩ := bind_eq_ok h
  obtain ⟨size, _, sizeChecked, h⟩ := bind_eq_ok h
  obtain ⟨_, _, -, h⟩ := bind_eq_ok h
  obtain ⟨time, _, timeChecked, h⟩ := bind_eq_ok h
  obtain ⟨typesOnly, _, -, h⟩ := bind_eq_ok h
  obtain ⟨element, _, read, h⟩ := bind_eq_ok h
  obtain ⟨filter, _, understood, h⟩ := bind_eq_ok h
  obtain ⟨_, _, -, h⟩ := bind_eq_ok h
  obtain ⟨attributes, _, -, h⟩ := bind_eq_ok h
  obtain ⟨_, _, -, h⟩ := bind_eq_ok h
  cases h
  have single := single_of_element (of_mapError_ok read)
  exact ⟨le_of_readLimit (of_ofExcept_ok sizeChecked), le_of_readLimit (of_ofExcept_ok timeChecked),
    Filter.hasForm_of_ofElement Filter.maxDepth single (of_ofExcept_ok understood)⟩

namespace Request

theorem hasForm_of_ofElement {element : Element} {request : Request}
    (h : ofElement element = .ok request) : request.HasForm := by
  unfold ofElement at h
  split at h
  · next kind _ =>
    cases kind with
    | bind =>
      obtain ⟨bind, read, rfl⟩ := of_map_ok h
      exact BindRequest.version_of_ofValue read
    | search =>
      obtain ⟨search, read, rfl⟩ := of_map_ok h
      exact SearchRequest.hasForm_of_ofValue read
    | abandon =>
      obtain ⟨number, -, h⟩ := of_bind_ok h
      obtain ⟨id, checked, h⟩ := of_bind_ok h
      cases h
      exact lt_of_requireSome checked
    | delete =>
      obtain ⟨dn, -, h⟩ := of_bind_ok h
      cases h
      trivial
    | unbind =>
      cases h
      trivial
    | modify | add | modifyDn | compare | extended =>
      obtain ⟨_, -, rfl⟩ := of_map_ok h
      trivial
  · cases h

end Request

namespace Message

theorem id_of_ofFrame {frame : Octets} {envelope : Envelope}
    (h : Envelope.ofFrame frame = .ok envelope) : envelope.id ≤ maxInt := by
  obtain ⟨body, -, h⟩ := of_bind_ok h
  obtain ⟨_, h⟩ := of_run_ok h
  obtain ⟨id, _, -, h⟩ := bind_eq_ok h
  cases below : natBelow? (maxInt + 1) id with
  | some checked =>
    simp only [below] at h
    obtain ⟨operation, _, -, h⟩ := bind_eq_ok h
    obtain ⟨_, _, -, h⟩ := bind_eq_ok h
    obtain ⟨controls, _, -, h⟩ := bind_eq_ok h
    obtain ⟨_, _, -, h⟩ := bind_eq_ok h
    cases h
    exact Nat.le_of_lt_succ (natBelow?_eq_some_iff.1 below).2
  | none =>
    simp only [below] at h
    cases h

theorem hasForm_of_decode {frame : Octets} {message : Message} (h : decode frame = .ok message) :
    message.HasForm := by
  obtain ⟨passes, operation, sound, understood⟩ := decode_eq_ok_iff.1 h
  exact ⟨id_of_ofFrame sound, Request.hasForm_of_ofElement understood, passes⟩

/-- Exactly the messages that have a form can be brought to the service: each of them
that is short enough for the length of its outermost element is read as it was
written, and nothing else is ever read, from any octets. -/
theorem round_trip (message : Message) :
    (message.HasForm → message.write.length < 2 ^ 32 → decode message.write = .ok message) ∧
    (∀ frame, decode frame = .ok message → message.HasForm) :=
  ⟨decode_write, fun _ => hasForm_of_decode⟩

def sampleSearch : Message where
  id := 7
  request := .search {
    base := "dc=example"
    scope := .subtree
    sizeLimit := 1000
    filter := .and [.not (.present "mail"), .unknown "0xaa"]
    attributes := ["cn"] }
  controls := [{ oid := "1.2.3", value := some [1] }]

theorem decode_sampleSearch :
    sampleSearch.HasForm ∧ sampleSearch.write.length < 2 ^ 32 ∧
      decode sampleSearch.write = .ok sampleSearch := by
  have unassigned : Filter.IsUnassigned 0xaa := ⟨rfl, by decide⟩
  have form : sampleSearch.HasForm := by
    refine ⟨by decide, ⟨by decide, by decide, .and ?_, by decide⟩, .inr (.inr (by decide))⟩
    intro child mem
    rcases List.mem_cons.1 mem with rfl | mem
    · exact .not (.present "mail")
    · cases List.mem_singleton.1 mem
      exact .unknown unassigned
  have short : sampleSearch.write.length < 2 ^ 32 := by decide +kernel
  exact ⟨form, short, (round_trip sampleSearch).1 form short⟩

end Message

end LdapService

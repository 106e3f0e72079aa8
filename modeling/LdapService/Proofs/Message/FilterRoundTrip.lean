import LdapService.Proofs.Message.Segments

/-!
Filters read back as they were written. The induction is on the levels that the
reader may still use, since that is what it recurses on; a filter that is no higher
than them is read, whatever its shape.
-/

namespace LdapService

open Ber

namespace Assertion

theorem ofValue_write {assertion : Assertion} (ruleless : assertion.rule = none)
    (h : Octets.Fits assertion.write) : ofValue assertion.write = .ok assertion := by
  obtain ⟨attr, rule, value⟩ := assertion
  cases ruleless
  refine Reader.run_eq ?_
  unfold write at h ⊢
  rw [List.append_assoc, Reader.bind_of_ok (Reader.text_write rfl h.left _),
    Reader.bind_of_ok (Reader.text_write rfl h.right _), Reader.bind_of_ok Reader.finish_nil]
  rfl

end Assertion

namespace Filter

theorem writeAll_eq_flatMap (children : List Filter) :
    writeAll children = children.flatMap fun child => child.toElement.octets := by
  induction children with
  | nil => rfl
  | cons child rest ih => rw [writeAll, ih, List.flatMap_cons]

theorem height_le_of_mem {child : Filter} {children : List Filter} (mem : child ∈ children) :
    child.height ≤ heightAll children := by
  induction children with
  | nil => cases mem
  | cons first rest ih =>
    rw [heightAll]
    rcases List.mem_cons.1 mem with rfl | later
    · omega
    · have := ih later
      omega

theorem one_le_height (filter : Filter) : 1 ≤ filter.height := by
  cases filter <;> simp [height]

section Names

theorem hexDigit_injective : ∀ first < 16, ∀ second < 16,
    Octets.hexDigit first = Octets.hexDigit second → first = second := by
  decide

theorem toList_tagName (tag : UInt8) :
    (tagName tag).toList =
      ['0', 'x', Octets.hexDigit (tag.toNat / 16), Octets.hexDigit (tag.toNat % 16)] := by
  simp only [tagName, Octets.hex, toString, String.toList_append, String.toList_ofList]
  rfl

theorem tagName_injective {first second : UInt8} (h : tagName first = tagName second) :
    first = second := by
  have letters := congrArg String.toList h
  rw [toList_tagName, toList_tagName] at letters
  simp only [List.cons.injEq, true_and, and_true] at letters
  have bound := first.toNat_lt
  have bound' := second.toNat_lt
  have high := hexDigit_injective _ (by omega) _ (by omega) letters.1
  have low := hexDigit_injective _ (by omega) _ (by omega) letters.2
  exact UInt8.toNat_inj.1 (by omega)

theorem tagNamed?_tagName (tag : UInt8) : tagNamed? (tagName tag) = some tag := by
  have listed : tag ∈ (List.range 256).map UInt8.ofNat :=
    List.mem_map.2 ⟨tag.toNat, List.mem_range.2 tag.toNat_lt, UInt8.ofNat_toNat⟩
  unfold tagNamed?
  cases found : ((List.range 256).map UInt8.ofNat).find? fun other => tagName other == tagName tag with
  | none =>
    have missed := List.find?_eq_none.1 found tag listed
    simp at missed
  | some other =>
    have same := List.find?_some found
    rw [tagName_injective (beq_iff_eq.1 same)]

end Names

theorem ofExtensible_rule {assertion : Assertion} {rule : String} (named : assertion.rule = some rule)
    (h : Octets.Fits (assertion.writeExtensible rule)) :
    ofExtensible (assertion.writeExtensible rule) = .ok (.equality assertion) := by
  obtain ⟨attr, rule, value⟩ := assertion
  cases named
  unfold Assertion.writeExtensible at h ⊢
  apply Reader.run_lift_bind
  · rw [List.append_assoc, List.append_assoc,
      Reader.bind_of_ok (Reader.optionalText_write rfl h.left.left _),
      Reader.bind_of_ok (Reader.optionalText_write rfl h.left.right _), writeText,
      Reader.bind_of_ok (Reader.expect_write rfl (Element.fits_of_write h.right) []),
      Reader.bind_of_ok (Reader.ofExcept_of_ok (Reader.textOf_utf8 value) []),
      Reader.bind_of_ok (Reader.optional_absent (by simp))]
    rfl
  · rfl

theorem ofExtensible_undefined :
    ofExtensible (writeText Tag.Extensible.rule "caseIgnoreMatch" ++ writeText Tag.Extensible.value "") =
      .ok .undefined := by
  rfl

section Choices

variable (levels : Nat) (value : Octets)

theorem ofElement_and : ofElement (levels + 1) ⟨Tag.Filter.and, value⟩ =
    Filter.and <$> mapElements Fault.encoding (ofElement levels) value := rfl

theorem ofElement_or : ofElement (levels + 1) ⟨Tag.Filter.or, value⟩ =
    Filter.or <$> mapElements Fault.encoding (ofElement levels) value := rfl

section Negation

variable {levels value} {child : Element} {rest : Octets}

theorem ofElement_not_broken {error : Error} (broken : Element.read value = .error error) :
    ofElement (levels + 1) ⟨Tag.Filter.not, value⟩ = .error (.encoding error) := by
  have failed : (liftM Reader.element : Reader Fault Element) value =
      (.error (.encoding error), value) := by
    change Reader.mapError Fault.encoding Reader.element value = _
    rw [Reader.mapError, Reader.element, broken]
    rfl
  change Reader.run value _ = _
  rw [Reader.run, Reader.bind_of_error failed]

/-- The child is judged before what is behind it. -/
theorem ofElement_not (read : Element.read value = .ok (child, rest)) :
    ofElement (levels + 1) ⟨Tag.Filter.not, value⟩ =
      ofElement levels child >>= fun child =>
        if rest = [] then .ok (.not child) else reject .negationOfSeveral := by
  have taken : Reader.element value = (.ok child, rest) := by rw [Reader.element, read]
  change Reader.run value _ = _
  rw [Reader.run, Reader.bind_of_ok (Reader.lift_of_ok taken)]
  cases ofElement levels child with
  | error fault => rfl
  | ok child => cases rest <;> rfl

theorem ofElement_negation (spells : Spells value [child]) :
    ofElement (levels + 1) ⟨Tag.Filter.not, value⟩ = Filter.not <$> ofElement levels child := by
  obtain ⟨encoded, rest, rfl, rfl, nothing⟩ := spells.exists_cons
  obtain rfl := nothing.eq_nil
  rw [ofElement_not (encoded.read_octets [])]
  cases ofElement levels encoded.element <;> rfl

end Negation

theorem ofElement_equality : ofElement (levels + 1) ⟨Tag.Filter.equality, value⟩ =
    Filter.equality <$> (liftM (Assertion.ofValue value) : Except Fault Assertion) := rfl

theorem ofElement_greaterOrEqual : ofElement (levels + 1) ⟨Tag.Filter.greaterOrEqual, value⟩ =
    Filter.greaterOrEqual <$> (liftM (Assertion.ofValue value) : Except Fault Assertion) := rfl

theorem ofElement_lessOrEqual : ofElement (levels + 1) ⟨Tag.Filter.lessOrEqual, value⟩ =
    Filter.lessOrEqual <$> (liftM (Assertion.ofValue value) : Except Fault Assertion) := rfl

theorem ofElement_substrings : ofElement (levels + 1) ⟨Tag.Filter.substrings, value⟩ =
    Filter.substrings <$> SubstringsAssertion.ofValue value := rfl

theorem ofElement_present : ofElement (levels + 1) ⟨Tag.Filter.present, value⟩ =
    Filter.present <$> (liftM (Reader.textOf value) : Except Fault String) := rfl

theorem ofElement_extensible : ofElement (levels + 1) ⟨Tag.Filter.extensible, value⟩ =
    ofExtensible value := rfl

theorem ofElement_unassigned {tag : UInt8} (h : tag ∉ assignedTags) :
    ofElement (levels + 1) ⟨tag, value⟩ = .ok (.unknown (tagName tag)) := by
  simp only [assignedTags, List.mem_cons, List.not_mem_nil, or_false, not_or] at h
  obtain ⟨and, or, not, equality, approximate, greater, less, substrings, present, extensible⟩ := h
  simp only [ofElement, and, or, not, equality, approximate, greater, less, substrings, present,
    extensible, if_false, or_self]
  rfl

end Choices

theorem single_toElement {filter : Filter} (form : filter.HasForm) :
    isMultiOctetTag filter.toElement.tag = false := by
  cases form with
  | equality assertion =>
    cases named : assertion.rule <;> simp only [toElement, named] <;> rfl
  | @unknown tag unassigned =>
    rw [toElement, tagNamed?_tagName]
    exact unassigned.1
  | _ => simp only [toElement]; rfl

section Children

variable {levels : Nat} {children : List Filter}

theorem spells_children (each : ∀ child ∈ children, child.HasForm)
    (fits : Octets.Fits (writeAll children)) :
    Spells (writeAll children) (children.map toElement) := by
  rw [writeAll_eq_flatMap] at fits ⊢
  exact Spells.flatMap toElement (fun child mem => single_toElement (each child mem)) fits

theorem fits_child (fits : Octets.Fits (writeAll children)) {child : Filter}
    (mem : child ∈ children) : Octets.Fits child.toElement.value := by
  rw [writeAll_eq_flatMap] at fits
  exact Element.fits_of_write (fits.of_mem mem)

theorem ofElement_children (each : ∀ child ∈ children, child.HasForm)
    (within : heightAll children ≤ levels) (fits : Octets.Fits (writeAll children))
    (ih : ∀ {filter : Filter}, filter.HasForm → filter.height ≤ levels →
      Octets.Fits filter.toElement.value → ofElement levels filter.toElement = .ok filter) :
    mapElements Fault.encoding (ofElement levels) (writeAll children) = .ok children := by
  rw [(spells_children each fits).mapElements, mapM_eq_ok_iff, List.forall₂_map_left_iff,
    List.forall₂_same]
  intro child mem
  have low := Nat.le_trans (height_le_of_mem mem) within
  exact ih (each child mem) low (fits_child fits mem)

end Children

theorem ofElement_toElement (levels : Nat) {filter : Filter} (form : filter.HasForm)
    (within : filter.height ≤ levels) (fits : Octets.Fits filter.toElement.value) :
    ofElement levels filter.toElement = .ok filter := by
  induction levels generalizing filter with
  | zero =>
    have := one_le_height filter
    omega
  | succ levels ih =>
    cases form with
    | present attr => rw [toElement, ofElement_present, Reader.lift_ok (Reader.textOf_utf8 attr)]; rfl
    | undefined => rw [toElement, ofElement_extensible, ofExtensible_undefined]
    | equality assertion =>
      rw [toElement] at fits ⊢
      split at fits
      · next ruleless =>
        rw [ofElement_equality, Reader.lift_ok (Assertion.ofValue_write ruleless fits)]
        rfl
      · next rule named =>
        rw [ofElement_extensible, ofExtensible_rule named fits]
    | @greaterOrEqual assertion ruleless =>
      rw [toElement, ofElement_greaterOrEqual,
        Reader.lift_ok (Assertion.ofValue_write ruleless fits)]
      rfl
    | @lessOrEqual assertion ruleless =>
      rw [toElement, ofElement_lessOrEqual,
        Reader.lift_ok (Assertion.ofValue_write ruleless fits)]
      rfl
    | @substrings assertion ruleless segment =>
      rw [toElement, ofElement_substrings,
        SubstringsAssertion.ofValue_write ruleless segment fits]
      rfl
    | @and children each =>
      rw [height] at within
      rw [toElement, ofElement_and, ofElement_children each (by omega) fits ih]
      rfl
    | @or children each =>
      rw [height] at within
      rw [toElement, ofElement_or, ofElement_children each (by omega) fits ih]
      rfl
    | @not child inner =>
      rw [height] at within
      rw [toElement] at fits ⊢
      have short := Element.fits_of_write fits
      have alone : Spells child.toElement.octets [child.toElement] :=
        .written (single_toElement inner) short
      rw [ofElement_negation alone, ih inner (by omega) short]
      rfl
    | @unknown tag unassigned =>
      rw [toElement, tagNamed?_tagName]
      exact ofElement_unassigned levels [] unassigned.2

end Filter

end LdapService

import LdapService.Proofs.Message.Searches

/-!
Requests read back as they were written, one lemma for each kind; searches go with
their filters. Every lemma goes through the elements of its request in order; numbers
are checked again by the reader, and their bounds are what the request has to keep.
-/

namespace LdapService

open Ber

namespace BindRequest

theorem readAuthentication_write {authentication : Authentication}
    (h : Octets.Fits authentication.write) :
    ∃ element, (∀ rest, Reader.element (authentication.write ++ rest) = (.ok element, rest)) ∧
      readAuthentication element = .ok authentication := by
  cases authentication with
  | simple password =>
    exact ⟨_, Reader.element_write rfl (Element.fits_of_write h), rfl⟩
  | sasl mechanism credentials =>
    have inside := Element.fits_of_write h
    refine ⟨_, Reader.element_write rfl inside, ?_⟩
    change Reader.run _ _ = _
    refine Reader.run_eq ?_
    have bare : ([] : Octets).head? ≠ some Tag.octetString := by simp
    rw [List.append_assoc,
      Reader.bind_of_ok (Reader.lift_of_ok (Reader.text_write rfl inside.left _)),
      Reader.bind_of_ok
        (Reader.lift_of_ok (Response.optionalPart_value rfl inside.right bare))]
    rfl

theorem ofValue_write {request : BindRequest} (version : request.version < 256)
    (h : Octets.Fits request.write) : ofValue request.write = .ok request := by
  unfold write at h ⊢
  obtain ⟨element, read, understood⟩ := readAuthentication_write h.right
  refine Reader.run_eq ?_
  rw [List.append_assoc, List.append_assoc,
    Reader.bind_of_ok (Reader.lift_of_ok (Reader.integer_write rfl (by omega) (by omega) _)),
    Reader.bind_of_ok (Reader.ofExcept_of_ok (requireSome_some (natBelow?_eq_some_iff.2 ⟨rfl, version⟩) _) _),
    Reader.bind_of_ok (Reader.lift_of_ok (Reader.text_write rfl h.left.right _)),
    Reader.bind_of_ok (Reader.lift_of_ok (read _)),
    Reader.bind_of_ok (Reader.ofExcept_of_ok understood _)]
  rfl

end BindRequest

namespace ModifyRequest

theorem ofNumber?_operation (operation : ModifyOperation) :
    ModifyOperation.ofNumber? operation.number = some operation := by
  cases operation <;> rfl

theorem readChange_write {change : Modification} (h : Octets.Fits change.write) :
    IsElementOf readChange change.write change := by
  refine ⟨_, _, rfl, rfl, ?_⟩
  have operation : -2 ^ 63 ≤ change.operation.number ∧ change.operation.number < 2 ^ 63 := by
    cases change.operation <;> decide
  have inside := Element.fits_of_write h
  have pair := Element.fits_of_write inside.right
  have attribution := Reader.lift_ok (readAttribute_write pair)
  change (Reader.run _ _ >>= _) = _
  apply Reader.run_bind
  · rw [List.append_assoc,
      Reader.bind_of_ok (Reader.lift_of_ok (Reader.integer_write rfl operation.1 operation.2 _)),
      Reader.bind_of_ok (Reader.ofExcept_of_ok
        (requireSome_some (ofNumber?_operation change.operation) _) _),
      Reader.bind_of_ok (Reader.lift_of_ok (Reader.expect_write rfl pair [])),
      Reader.bind_of_ok (Reader.ofExcept_of_ok attribution [])]
    rfl
  · rfl

theorem ofValue_write {request : ModifyRequest} (h : Octets.Fits request.write) :
    ofValue request.write = .ok request := by
  unfold write at h ⊢
  have list := Element.fits_of_write h.right
  apply Reader.run_lift_bind
  · rw [List.append_assoc, Reader.bind_of_ok (Reader.text_write rfl h.left _),
      Reader.bind_of_ok (Reader.expect_write rfl list []), Reader.bind_of_ok Reader.finish_nil]
    rfl
  · have changes : mapElements Fault.encoding readChange
        (request.changes.flatMap Modification.write) = .ok request.changes :=
      mapElements_flatMap (fun change mem => readChange_write (list.of_mem mem)) list
    simp only [changes]
    rfl

end ModifyRequest

namespace Entry

theorem alterPairs_append {name : String} {change : List String → List String}
    {pairs : List (String × List String)} (last : ∀ pair ∈ pairs, pair.1 < name) :
    Attributes.alterPairs name change pairs = pairs ++ [(name, change [])] := by
  induction pairs with
  | nil => rfl
  | cons pair rest ih =>
    obtain ⟨below, others⟩ := List.forall_mem_cons.1 last
    have notAbove : ¬name < pair.1 := fun above => String.lt_irrefl _ (String.lt_trans above below)
    have different : pair.1 ≠ name := fun same => String.lt_irrefl _ (same ▸ below)
    rw [Attributes.alterPairs, if_neg notAbove, if_neg different, ih others, List.cons_append]

theorem foldl_append (first : Attributes) {pairs : List (String × List String)}
    (ascending : (first.pairs ++ pairs).Pairwise fun one other => one.1 < other.1) :
    (pairs.foldl (fun attributes pair => attributes.append pair.1 pair.2) first).pairs =
      first.pairs ++ pairs := by
  induction pairs generalizing first with
  | nil => simp
  | cons pair rest ih =>
    have last : ∀ earlier ∈ first.pairs, earlier.1 < pair.1 := fun earlier mem =>
      (List.pairwise_append.1 ascending).2.2 earlier mem pair List.mem_cons_self
    have grown : (first.append pair.1 pair.2).pairs = first.pairs ++ [pair] :=
      alterPairs_append last
    rw [List.foldl_cons, ih _ (by simpa [grown] using ascending), grown, List.append_assoc]
    rfl

theorem ofPairs_pairs (attributes : Attributes) : Attributes.ofPairs attributes.pairs = attributes := by
  have same : (Attributes.ofPairs attributes.pairs).pairs = attributes.pairs :=
    foldl_append .empty attributes.ascending
  cases attributes
  cases found : Attributes.ofPairs _
  simp_all

theorem ofValue_write {entry : Entry} (h : Octets.Fits entry.write) :
    ofValue entry.write = .ok entry := by
  unfold write at h ⊢
  have list := Element.fits_of_write h.right
  have pairs : mapElements Fault.encoding
      (fun element => do readAttribute (← element.expect Tag.sequence))
      (entry.attributes.pairs.flatMap fun pair => Element.write Tag.sequence (writeAttribute pair)) =
        .ok entry.attributes.pairs := by
    refine mapElements_flatMap (fun pair mem => ⟨_, _, rfl, rfl, ?_⟩) list
    exact Reader.lift_ok (readAttribute_write (Element.fits_of_write (list.of_mem mem)))
  apply Reader.run_lift_bind
  · rw [List.append_assoc, Reader.bind_of_ok (Reader.text_write rfl h.left _),
      Reader.bind_of_ok (Reader.expect_write rfl list []), Reader.bind_of_ok Reader.finish_nil]
    rfl
  · simp only [pairs]
    change Except.ok (⟨entry.dn, .ofPairs entry.attributes.pairs⟩ : Entry) = _
    rw [ofPairs_pairs]

end Entry

namespace ModifyDnRequest

theorem ofValue_write {request : ModifyDnRequest} (h : Octets.Fits request.write) :
    ofValue request.write = .ok request := by
  unfold write at h ⊢
  have bare : ([] : Octets).head? ≠ some Tag.ModifyDn.newSuperior := by simp
  refine Reader.run_eq ?_
  simp only [List.append_assoc]
  rw [Reader.bind_of_ok (Reader.lift_of_ok (Reader.text_write rfl h.left.left.left _)),
    Reader.bind_of_ok (Reader.lift_of_ok (Reader.text_write rfl h.left.left.right _)),
    Reader.bind_of_ok (Reader.lift_of_ok (Reader.boolean_write request.deleteOldRdn _)),
    Reader.bind_of_ok (Reader.lift_of_ok (Response.optionalPart_text rfl h.right bare))]
  rfl

end ModifyDnRequest

namespace CompareRequest

theorem ofValue_write {request : CompareRequest} (h : Octets.Fits request.write) :
    ofValue request.write = .ok request := by
  have inside := Element.fits_of_write h.right
  have ruleless : ({ attr := request.attr, value := request.value } : Assertion).rule = none := rfl
  have assertion := Assertion.ofValue_write ruleless inside
  refine Reader.run_eq ?_
  rw [write, List.append_assoc,
    Reader.bind_of_ok (Reader.lift_of_ok (Reader.text_write rfl h.left _)),
    Reader.bind_of_ok (Reader.lift_of_ok (Reader.expect_write rfl inside [])),
    Reader.bind_of_ok (Reader.ofExcept_of_ok (Reader.lift_ok assertion) [])]
  rfl

end CompareRequest

namespace ExtendedRequest

theorem ofValue_write {request : ExtendedRequest} (h : Octets.Fits request.write) :
    ofValue request.write = .ok request := by
  unfold write at h ⊢
  have bare : ([] : Octets).head? ≠ some Tag.Extended.requestValue := by simp
  refine Reader.run_eq ?_
  rw [List.append_assoc,
    Reader.bind_of_ok (Reader.lift_of_ok (Reader.text_write rfl h.left _)),
    Reader.bind_of_ok (Reader.lift_of_ok (Response.optionalPart_value rfl h.right bare))]
  rfl

end ExtendedRequest

namespace Request

theorem readAbandon_write {id : Nat} (small : id < 2 ^ 32) :
    ofValue .abandon (Integer.write id) = .ok (.abandon id) := by
  have number := Reader.lift_ok (@Integer.read_write id (by omega) (by omega))
  have checked : natBelow? 0x100000000 id = some id := natBelow?_eq_some_iff.2 ⟨rfl, small⟩
  rw [ofValue, number, Reader.ok_bind, requireSome_some checked, Reader.ok_bind]
  rfl

theorem ofValue_write {request : Request} (form : request.HasForm)
    (h : Octets.Fits request.write) : ofValue request.kind request.write = .ok request := by
  cases request with
  | bind request =>
    simp only [kind, write, ofValue, BindRequest.ofValue_write form h]
    rfl
  | unbind => rfl
  | search request =>
    obtain ⟨size, time, filter, low⟩ := form
    simp only [kind, write, ofValue, SearchRequest.ofValue_write size time filter low h]
    rfl
  | modify request =>
    simp only [kind, write, ofValue, ModifyRequest.ofValue_write h]
    rfl
  | add entry =>
    simp only [kind, write, ofValue, Entry.ofValue_write h]
    rfl
  | delete dn =>
    simp only [kind, write, ofValue, Reader.textOf_utf8]
    rfl
  | modifyDn request =>
    simp only [kind, write, ofValue, ModifyDnRequest.ofValue_write h]
    rfl
  | compare request =>
    simp only [kind, write, ofValue, CompareRequest.ofValue_write h]
    rfl
  | abandon id => exact readAbandon_write form
  | extended request =>
    simp only [kind, write, ofValue, ExtendedRequest.ofValue_write h]
    rfl

theorem ofElement_eq {tag : UInt8} {kind : RequestKind}
    (known : RequestKind.ofTag? tag = some kind) (value : Octets) :
    ofElement ⟨tag, value⟩ = ofValue kind value := by
  simp only [ofElement, known]

theorem kind_of_ofValue {kind : RequestKind} {value : Octets} {request : Request}
    (h : ofValue kind value = .ok request) : request.kind = kind := by
  cases kind with
  | unbind =>
    cases h
    rfl
  | abandon =>
    obtain ⟨number, -, h⟩ := Reader.of_bind_ok h
    obtain ⟨id, -, h⟩ := Reader.of_bind_ok h
    cases h
    rfl
  | delete =>
    obtain ⟨dn, -, h⟩ := Reader.of_bind_ok h
    cases h
    rfl
  | _ =>
    obtain ⟨found, -, rfl⟩ := Reader.of_map_ok h
    rfl

theorem tag_of_ofTag? {tag : UInt8} {kind : RequestKind}
    (known : RequestKind.ofTag? tag = some kind) : kind.tag = tag :=
  beq_iff_eq.1 (List.find?_some (p := fun kind : RequestKind => kind.tag == tag) known)

theorem ofElement_eq_ok_iff {operation : Element} {request : Request} :
    ofElement operation = .ok request ↔
      operation.tag = request.kind.tag ∧ ofValue request.kind operation.value = .ok request := by
  obtain ⟨tag, value⟩ := operation
  constructor
  · intro h
    cases known : RequestKind.ofTag? tag with
    | none =>
      simp only [ofElement, known] at h
      cases h
    | some kind =>
      rw [ofElement_eq known] at h
      obtain rfl := kind_of_ofValue h
      exact ⟨(tag_of_ofTag? known).symm, h⟩
  · rintro ⟨rfl, h⟩
    rw [ofElement_eq (RequestKind.ofTag?_tag _), h]

theorem ofElement_write {request : Request} (form : request.HasForm)
    (h : Octets.Fits request.write) :
    ofElement ⟨request.kind.tag, request.write⟩ = .ok request :=
  ofElement_eq_ok_iff.2 ⟨rfl, ofValue_write form h⟩

end Request

end LdapService

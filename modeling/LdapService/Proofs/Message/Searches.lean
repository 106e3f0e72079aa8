import LdapService.Proofs.Message.FilterRoundTrip

/-!
Searches around their filters. Every other part of a search is read by itself, so a search comes
to what its filter comes to. It is the same with a filter that stands in others: negations,
conjunctions and disjunctions are built around it, and a fault in it goes out through all of them.
-/

namespace LdapService

open Ber

theorem requireSome_some {α : Type} {value : Option α} {found : α} (h : value = some found)
    (cause : Rejection) : requireSome value cause = .ok found := by
  rw [h]
  rfl

theorem readTexts_spells {texts : List String}
    (h : Octets.Fits (texts.flatMap (writeText Tag.octetString))) :
    Spells (texts.flatMap (writeText Tag.octetString)) (texts.map textElement) := by
  have single (text : String) (_ : text ∈ texts) : isMultiOctetTag (textElement text).tag = false :=
    show isMultiOctetTag Tag.octetString = false from rfl
  exact Spells.flatMap textElement single h

namespace Ber.Reader

variable {input : Octets} {tag : UInt8} {content : Octets} {elements : List Element}

theorem integer_of_spells {number : Int} (spells : Spells input (⟨tag, content⟩ :: elements))
    (numbered : Integer.read content = .ok number) :
    ∃ rest, Spells rest elements ∧ integer tag input = (.ok number, rest) := by
  obtain ⟨rest, others, read⟩ := expect_of_spells spells
  refine ⟨rest, others, ?_⟩
  rw [integer, bind_of_ok read, ofExcept_apply, numbered]

theorem boolean_of_spells {flag : UInt8}
    (spells : Spells input (⟨Tag.boolean, [flag]⟩ :: elements)) :
    ∃ rest, Spells rest elements ∧ boolean input = (.ok (flag != 0), rest) := by
  obtain ⟨rest, others, read⟩ := expect_of_spells spells
  exact ⟨rest, others, bind_of_ok read⟩

theorem element_of_spells {element : Element} (spells : Spells input (element :: elements)) :
    ∃ rest, Spells rest elements ∧ Reader.element input = (.ok element, rest) :=
  takesOne_element.of_spells spells

end Ber.Reader

namespace Filter

/-- Filters that can be read at this depth, but for one among them. -/
inductive Among (levels : Nat) (child : Element) : Octets → (Filter → List Filter) → Prop
  | intro {value : Octets} {before after : List Element} {front back : List Filter}
      (spells : Spells value (before ++ child :: after))
      (read : before.mapM (ofElement levels) = .ok front)
      (read' : after.mapM (ofElement levels) = .ok back) :
      Among levels child value fun filter => front ++ filter :: back

/-- A filter, read with so many levels, with another one in it that is read with `levels`. All
that stands beside it can be read, and `build` says what is made of it. -/
inductive Encloses (inner : Element) (levels : Nat) : Nat → Element → (Filter → Filter) → Prop
  | here : Encloses inner levels levels inner id
  | negation {above : Nat} {value : Octets} {child : Element} {build : Filter → Filter}
      (spells : Spells value [child]) (encloses : Encloses inner levels above child build) :
      Encloses inner levels (above + 1) ⟨Tag.Filter.not, value⟩ fun filter => .not (build filter)
  | conjunction {above : Nat} {value : Octets} {child : Element} {build : Filter → Filter}
      {list : Filter → List Filter} (among : Among above child value list)
      (encloses : Encloses inner levels above child build) :
      Encloses inner levels (above + 1) ⟨Tag.Filter.and, value⟩ fun filter =>
        .and (list (build filter))
  | disjunction {above : Nat} {value : Octets} {child : Element} {build : Filter → Filter}
      {list : Filter → List Filter} (among : Among above child value list)
      (encloses : Encloses inner levels above child build) :
      Encloses inner levels (above + 1) ⟨Tag.Filter.or, value⟩ fun filter =>
        .or (list (build filter))

theorem Among.mapElements {levels : Nat} {child : Element} {value : Octets}
    {list : Filter → List Filter} (among : Among levels child value list) :
    mapElements Fault.encoding (ofElement levels) value = list <$> ofElement levels child := by
  cases among with
  | intro spells read read' =>
    rw [spells.mapElements, List.mapM_append, read, Reader.ok_bind, List.mapM_cons, read']
    cases ofElement levels child <;> rfl

theorem Encloses.ofElement {inner outer : Element} {levels above : Nat} {build : Filter → Filter}
    (encloses : Encloses inner levels above outer build) :
    ofElement above outer = build <$> ofElement levels inner := by
  induction encloses with
  | here => rw [id_map]
  | negation spells encloses ih => rw [ofElement_negation spells, ih, ← comp_map]; rfl
  | conjunction among encloses ih =>
    rw [ofElement_and, among.mapElements, ih, ← comp_map, ← comp_map]
    rfl
  | disjunction among encloses ih =>
    rw [ofElement_or, among.mapElements, ih, ← comp_map, ← comp_map]
    rfl

end Filter

namespace SearchRequest

theorem ofNumber?_scope (scope : Scope) : Scope.ofNumber? scope.number = some scope := by
  cases scope <;> rfl

theorem ofNumber?_deref (deref : DerefAliases) :
    DerefAliases.ofNumber? deref.number = some deref := by
  cases deref <;> rfl

theorem scope_number (scope : Scope) : -2 ^ 63 ≤ scope.number ∧ scope.number < 2 ^ 63 := by
  cases scope <;> decide

theorem deref_number (deref : DerefAliases) : -2 ^ 63 ≤ deref.number ∧ deref.number < 2 ^ 63 := by
  cases deref <;> decide

theorem readLimit_natCast {limit : Nat} (h : limit ≤ maxInt) (which : SearchLimit) :
    readLimit which limit = .ok limit := by
  rw [readLimit, natBelow?_eq_some_iff.2 ⟨rfl, Nat.lt_succ_of_le h⟩]
  rfl

/-- The search as it is written, but with this element in the place of its filter. -/
def writeAround (request : SearchRequest) (filter : Element) : Octets :=
  writeText Tag.octetString request.base
    ++ writeInteger Tag.enumerated request.scope.number
    ++ writeInteger Tag.enumerated request.deref.number
    ++ writeInteger Tag.integer request.sizeLimit
    ++ writeInteger Tag.integer request.timeLimit
    ++ writeBoolean request.typesOnly
    ++ filter.octets
    ++ Element.write Tag.sequence (request.attributes.flatMap (writeText Tag.octetString))

theorem write_eq (request : SearchRequest) :
    request.write = request.writeAround request.filter.toElement := rfl

theorem fits_of_writeAround {request : SearchRequest} {filter : Element}
    (h : Octets.Fits (request.writeAround filter)) : Octets.Fits filter.value := by
  unfold writeAround at h
  exact Element.fits_of_write h.left.right

/-- How the parts of a search may travel, its filter apart: numbers and lists in any form that is
read as what the request has. -/
structure Surrounding (request : SearchRequest) where
  scope : Octets
  deref : Octets
  sizeLimit : Octets
  timeLimit : Octets
  typesOnly : UInt8
  attributes : Octets
  scope_read : Integer.read scope = .ok request.scope.number
  deref_read : Integer.read deref = .ok request.deref.number
  sizeLimit_read : Integer.read sizeLimit = .ok request.sizeLimit
  timeLimit_read : Integer.read timeLimit = .ok request.timeLimit
  typesOnly_read : (typesOnly != 0) = request.typesOnly
  attributes_read : Spells attributes (request.attributes.map textElement)
  sizeLimit_le : request.sizeLimit ≤ maxInt
  timeLimit_le : request.timeLimit ≤ maxInt

namespace Surrounding

variable {request : SearchRequest}

def elements (surrounding : request.Surrounding) (filter : Element) : List Element :=
  [textElement request.base, ⟨Tag.enumerated, surrounding.scope⟩,
    ⟨Tag.enumerated, surrounding.deref⟩, ⟨Tag.integer, surrounding.sizeLimit⟩,
    ⟨Tag.integer, surrounding.timeLimit⟩, ⟨Tag.boolean, [surrounding.typesOnly]⟩, filter,
    ⟨Tag.sequence, surrounding.attributes⟩]

theorem ofValue {surrounding : request.Surrounding} {filter : Element} {value : Octets}
    (spells : Spells value (surrounding.elements filter)) :
    ofValue value = (fun filter => { request with filter }) <$>
      Filter.ofElement Filter.maxDepth filter := by
  obtain ⟨_, spells, base⟩ := Reader.text_of_spells spells
  obtain ⟨_, spells, scope⟩ := Reader.integer_of_spells spells surrounding.scope_read
  obtain ⟨_, spells, deref⟩ := Reader.integer_of_spells spells surrounding.deref_read
  obtain ⟨_, spells, size⟩ := Reader.integer_of_spells spells surrounding.sizeLimit_read
  obtain ⟨_, spells, time⟩ := Reader.integer_of_spells spells surrounding.timeLimit_read
  obtain ⟨_, spells, flag⟩ := Reader.boolean_of_spells spells
  obtain ⟨_, spells, found⟩ := Reader.element_of_spells spells
  obtain ⟨_, nothing, list⟩ := Reader.expect_of_spells spells
  obtain rfl := nothing.eq_nil
  have attributes := readTexts_eq_ok_iff.2 surrounding.attributes_read
  rw [SearchRequest.ofValue, Reader.run, Reader.bind_of_ok (Reader.lift_of_ok base),
    Reader.bind_of_ok (Reader.lift_of_ok scope),
    Reader.bind_of_ok (Reader.ofExcept_of_ok
      (requireSome_some (ofNumber?_scope request.scope) _) _),
    Reader.bind_of_ok (Reader.lift_of_ok deref),
    Reader.bind_of_ok (Reader.ofExcept_of_ok
      (requireSome_some (ofNumber?_deref request.deref) _) _),
    Reader.bind_of_ok (Reader.lift_of_ok size),
    Reader.bind_of_ok (Reader.ofExcept_of_ok (readLimit_natCast surrounding.sizeLimit_le _) _),
    Reader.bind_of_ok (Reader.lift_of_ok time),
    Reader.bind_of_ok (Reader.ofExcept_of_ok (readLimit_natCast surrounding.timeLimit_le _) _),
    Reader.bind_of_ok (Reader.lift_of_ok flag), Reader.bind_of_ok (Reader.lift_of_ok found)]
  cases understood : Filter.ofElement Filter.maxDepth filter with
  | error error => rfl
  | ok filter =>
    rw [Reader.bind_of_ok (Reader.ofExcept_of_ok rfl _), Reader.bind_of_ok (Reader.lift_of_ok list),
      Reader.bind_of_ok (Reader.ofExcept_of_ok (Reader.lift_ok attributes) []),
      surrounding.typesOnly_read]
    rfl

def written (size : request.sizeLimit ≤ maxInt) (time : request.timeLimit ≤ maxInt)
    (fits : Octets.Fits (request.attributes.flatMap (writeText Tag.octetString))) :
    request.Surrounding where
  scope := Integer.write request.scope.number
  deref := Integer.write request.deref.number
  sizeLimit := Integer.write request.sizeLimit
  timeLimit := Integer.write request.timeLimit
  typesOnly := if request.typesOnly then 0xff else 0
  attributes := request.attributes.flatMap (writeText Tag.octetString)
  scope_read := Integer.read_write (scope_number _).1 (scope_number _).2
  deref_read := Integer.read_write (deref_number _).1 (deref_number _).2
  sizeLimit_read := by
    unfold maxInt at size
    exact Integer.read_write (by omega) (by omega)
  timeLimit_read := by
    unfold maxInt at time
    exact Integer.read_write (by omega) (by omega)
  typesOnly_read := by cases request.typesOnly <;> rfl
  attributes_read := readTexts_spells fits
  sizeLimit_le := size
  timeLimit_le := time

theorem spells_writeAround {filter : Element} (single : isMultiOctetTag filter.tag = false)
    (size : request.sizeLimit ≤ maxInt) (time : request.timeLimit ≤ maxInt)
    (fits : Octets.Fits (request.writeAround filter)) : ∃ surrounding : request.Surrounding,
      Spells (request.writeAround filter) (surrounding.elements filter) := by
  unfold writeAround at fits
  have list := Element.fits_of_write fits.right
  have inner := Element.fits_of_write fits.left.right
  have base := Element.fits_of_write fits.left.left.left.left.left.left.left
  have flag : Octets.Fits [if request.typesOnly then 0xff else 0] :=
    show 1 < 2 ^ 32 by decide
  refine ⟨written size time list, ?_⟩
  unfold writeAround
  simp only [List.append_assoc]
  unfold maxInt at size time
  refine .write rfl base ?_
  refine .write rfl (Integer.fits_write (scope_number _).1 (scope_number _).2) ?_
  refine .write rfl (Integer.fits_write (deref_number _).1 (deref_number _).2) ?_
  refine .write rfl (Integer.fits_write (by omega) (by omega)) ?_
  refine .write rfl (Integer.fits_write (by omega) (by omega)) ?_
  refine .write rfl flag ?_
  exact .write single inner (.written rfl list)

end Surrounding

theorem ofValue_write {request : SearchRequest} (size : request.sizeLimit ≤ maxInt)
    (time : request.timeLimit ≤ maxInt) (form : request.filter.HasForm)
    (low : request.filter.height ≤ Filter.maxDepth) (h : Octets.Fits request.write) :
    ofValue request.write = .ok request := by
  rw [write_eq] at h ⊢
  obtain ⟨surrounding, spells⟩ :=
    Surrounding.spells_writeAround (Filter.single_toElement form) size time h
  rw [Surrounding.ofValue spells,
    Filter.ofElement_toElement Filter.maxDepth form low (fits_of_writeAround h)]
  rfl

end SearchRequest

end LdapService

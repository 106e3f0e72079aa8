import LdapService.Proofs.Message.Accepted
import LdapService.Proofs.Session.Refusals

/-!
Nesting of filters is bounded from both sides. What is read is as high as the bound at most, and a
search that is written with a higher filter is refused for that, whatever else the filter holds.
Nor does the reading itself go deeper: it is compared with a reader that counts its depth upwards
and notes it with every call. That one recurses on the octets, so nothing but its count keeps it
from the bottom of them.
-/

namespace LdapService

open Ber

namespace Filter

section Height

variable {levels : Nat} {children : List Filter}

theorem exists_higher (high : levels < heightAll children) :
    ∃ child ∈ children, levels < child.height := by
  by_contra none
  have low (child : Filter) (mem : child ∈ children) : child.height ≤ levels :=
    Nat.le_of_not_lt fun higher => none ⟨child, mem, higher⟩
  exact absurd (heightAll_le low) (Nat.not_le_of_lt high)

theorem ofElement_children_tooDeep (each : ∀ child ∈ children, child.HasForm)
    (high : levels < heightAll children) (fits : Octets.Fits (writeAll children))
    (ih : ∀ {filter : Filter}, filter.HasForm → levels < filter.height →
      Octets.Fits filter.toElement.value →
      ofElement levels filter.toElement = .error (.rejected .filterTooDeep)) :
    mapElements Fault.encoding (ofElement levels) (writeAll children) =
      .error (.rejected .filterTooDeep) := by
  rw [(spells_children each fits).mapElements]
  refine mapM_eq_error ?_ ?_
  · intro element isChild
    obtain ⟨child, mem, rfl⟩ := List.mem_map.1 isChild
    rcases Nat.lt_or_ge levels child.height with higher | within
    · exact .inr (ih (each child mem) higher (fits_child fits mem))
    · exact .inl ⟨child, ofElement_toElement levels (each child mem) within (fits_child fits mem)⟩
  · obtain ⟨child, mem, higher⟩ := exists_higher high
    exact ⟨_, List.mem_map_of_mem mem, ih (each child mem) higher (fits_child fits mem)⟩

theorem ofElement_tooDeep (levels : Nat) {filter : Filter} (form : filter.HasForm)
    (high : levels < filter.height) (fits : Octets.Fits filter.toElement.value) :
    ofElement levels filter.toElement = .error (.rejected .filterTooDeep) := by
  induction levels generalizing filter with
  | zero => rfl
  | succ levels ih =>
    cases form with
    | @and children each =>
      rw [height] at high
      rw [toElement, ofElement_and, ofElement_children_tooDeep each (by omega) fits ih]
      rfl
    | @or children each =>
      rw [height] at high
      rw [toElement, ofElement_or, ofElement_children_tooDeep each (by omega) fits ih]
      rfl
    | @not child inner =>
      rw [height] at high
      rw [toElement] at fits ⊢
      have short := Element.fits_of_write fits
      have alone : Spells child.toElement.octets [child.toElement] :=
        .written (single_toElement inner) short
      rw [ofElement_negation alone, ih inner (by omega) short]
      rfl
    | _ =>
      simp only [height] at high
      omega

end Height

structure Recorded (α : Type) where
  depths : List Nat
  outcome : Except Fault α

namespace Recorded

variable {α β : Type}

def of (outcome : Except Fault α) : Recorded α :=
  ⟨[], outcome⟩

def note (depth : Nat) : Recorded Unit :=
  ⟨[depth], .ok ()⟩

protected def bind (first : Recorded α) (next : α → Recorded β) : Recorded β :=
  match first.outcome with
  | .ok value => ⟨first.depths ++ (next value).depths, (next value).outcome⟩
  | .error fault => ⟨first.depths, .error fault⟩

instance : Monad Recorded where
  pure value := of (.ok value)
  bind := Recorded.bind

/-- The outcome is this, and no call went beyond the bound. -/
structure Reads (recorded : Recorded α) (outcome : Except Fault α) : Prop where
  outcome : recorded.outcome = outcome
  depths : ∀ depth ∈ recorded.depths, depth ≤ maxDepth

theorem reads_of (outcome : Except Fault α) : (of outcome).Reads outcome :=
  ⟨rfl, List.forall_mem_nil _⟩

theorem Reads.bind {first : Recorded α} {outcome : Except Fault α} {next : α → Recorded β}
    {next' : α → Except Fault β} (reads : first.Reads outcome)
    (goesOn : ∀ value, (next value).Reads (next' value)) :
    (first >>= next).Reads (outcome >>= next') := by
  obtain ⟨depths, found⟩ := first
  obtain ⟨rfl, low⟩ := reads
  cases found with
  | error fault => exact ⟨rfl, low⟩
  | ok value => exact ⟨(goesOn value).outcome, List.forall_mem_append.2 ⟨low, (goesOn value).depths⟩⟩

theorem Reads.map {recorded : Recorded α} {outcome : Except Fault α}
    (reads : recorded.Reads outcome) (f : α → β) : (f <$> recorded).Reads (f <$> outcome) := by
  have mapped : f <$> outcome = outcome >>= fun value => .ok (f value) :=
    map_eq_pure_bind f outcome
  rw [mapped]
  exact reads.bind fun value => reads_of (.ok (f value))

theorem Reads.noted {recorded : Recorded α} {outcome : Except Fault α} {depth : Nat}
    (low : depth ≤ maxDepth) (reads : recorded.Reads outcome) :
    (note depth >>= fun _ => recorded).Reads outcome :=
  ⟨reads.outcome, List.forall_mem_cons.2 ⟨low, reads.depths⟩⟩

end Recorded

mutual

/-- Reads a filter at this depth. Each call is noted first, then the depth is looked at. -/
def readAt (depth : Nat) (element : Element) : Recorded Filter := do
  Recorded.note depth
  if maxDepth ≤ depth then .of (reject .filterTooDeep)
  else if element.tag = Tag.Filter.and then .and <$> readAllAt (depth + 1) element.value
  else if element.tag = Tag.Filter.or then .or <$> readAllAt (depth + 1) element.value
  else if element.tag = Tag.Filter.not then
    match _ : Element.read element.value with
    | .error error => .of (.error (.encoding error))
    | .ok (child, rest) => do
        let child ← readAt (depth + 1) child
        .of (if rest = [] then .ok (.not child) else reject .negationOfSeveral)
  -- no filter stands in any other choice
  else .of (ofElement 1 element)
termination_by 2 * element.value.length + 1
decreasing_by
  · omega
  · omega
  · have := Element.length_value ‹_›
    omega

def readAllAt (depth : Nat) (input : Octets) : Recorded (List Filter) :=
  if input = [] then .of (.ok [])
  else
    match _ : Element.read input with
    | .error error => .of (.error (.encoding error))
    | .ok (child, rest) => do
        let first ← readAt depth child
        let others ← readAllAt depth rest
        .of (.ok (first :: others))
termination_by 2 * input.length
decreasing_by
  · have := Element.length_value ‹_›
    omega
  · have := Element.length_read ‹_›
    omega

end

section Calls

variable {depth levels : Nat}

theorem readAllAt_octets (depth : Nat) (encoded : Encoded) (rest : Octets) :
    readAllAt depth (encoded.octets ++ rest) =
      readAt depth encoded.element >>= fun first =>
        readAllAt depth rest >>= fun others => .of (.ok (first :: others)) := by
  have read := encoded.read_octets rest
  have nonempty : encoded.octets ++ rest ≠ [] := List.cons_ne_nil _ _
  rw [readAllAt, if_neg nonempty]
  split
  · next failed =>
    rw [read] at failed
    cases failed
  · next done =>
    rw [read] at done
    cases done
    rfl

theorem readAllAt_broken {input : Octets} {error : Error} (nonempty : input ≠ [])
    (broken : Element.read input = .error error) :
    readAllAt depth input = .of (.error (.encoding error)) := by
  rw [readAllAt, if_neg nonempty]
  split
  · next failed =>
    rw [broken] at failed
    cases failed
    rfl
  · next read =>
    rw [broken] at read
    cases read

theorem readAllAt_reads (each : ∀ element, (readAt depth element).Reads (ofElement levels element))
    (input : Octets) :
    (readAllAt depth input).Reads (mapElements Fault.encoding (ofElement levels) input) := by
  induction input using octets_induction with
  | nil =>
    rw [mapElements_nil, readAllAt, if_pos rfl]
    exact Recorded.reads_of _
  | broken input error nonempty broken =>
    rw [mapElements_broken nonempty broken, readAllAt_broken nonempty broken]
    exact Recorded.reads_of _
  | cons encoded rest ih =>
    rw [mapElements_octets, readAllAt_octets]
    exact (each encoded.element).bind fun first => ih.map (first :: ·)

theorem ofElement_flat {tag : UInt8} (and : tag ≠ Tag.Filter.and) (or : tag ≠ Tag.Filter.or)
    (not : tag ≠ Tag.Filter.not) (levels : Nat) (value : Octets) :
    ofElement (levels + 1) ⟨tag, value⟩ = ofElement 1 ⟨tag, value⟩ := by
  simp only [ofElement, and, or, not, if_false]

/-- The count upwards and the levels that are left come to the bound together. -/
theorem readAt_reads (levels : Nat) {depth : Nat} (bound : depth + levels = maxDepth)
    (element : Element) : (readAt depth element).Reads (ofElement levels element) := by
  induction levels generalizing depth element with
  | zero =>
    rw [readAt, if_pos (by omega)]
    exact .noted (by omega) (Recorded.reads_of _)
  | succ levels ih =>
    obtain ⟨tag, value⟩ := element
    have deeper (element : Element) : (readAt (depth + 1) element).Reads (ofElement levels element) :=
      ih (by omega) element
    rw [readAt, if_neg (by omega)]
    refine .noted (by omega) ?_
    split
    · next isAnd =>
      obtain rfl : tag = Tag.Filter.and := isAnd
      rw [ofElement_and]
      exact (readAllAt_reads deeper value).map Filter.and
    split
    · next isOr =>
      obtain rfl : tag = Tag.Filter.or := isOr
      rw [ofElement_or]
      exact (readAllAt_reads deeper value).map Filter.or
    split
    · next isNot =>
      obtain rfl : tag = Tag.Filter.not := isNot
      split
      · next error broken =>
        rw [ofElement_not_broken broken]
        exact Recorded.reads_of _
      · next child rest read =>
        rw [ofElement_not read]
        exact (deeper child).bind fun child => Recorded.reads_of _
    · next and or not =>
      rw [ofElement_flat and or not levels value]
      exact Recorded.reads_of _

end Calls

end Filter

namespace Message

/-- A search with a filter that is too high is refused as it was written. -/
theorem tooDeep_refused {id : Nat} {request : SearchRequest} {controls : List Control}
    (low : id ≤ maxInt) (size : request.sizeLimit ≤ maxInt) (time : request.timeLimit ≤ maxInt)
    (form : request.filter.HasForm) (high : Filter.maxDepth < request.filter.height)
    (short : (write ⟨id, .search request, controls⟩).length < 2 ^ 32) :
    Refusal.Answers ⟨id, .searchDone, .protocolError, "Filter nesting too deep"⟩
      (write ⟨id, .search request, controls⟩) := by
  have fits : Octets.Fits request.write :=
    Element.fits_of_write (Element.fits_of_write short).right.left
  have sound := @ofFrame_message ⟨id, .search request, controls⟩ low short
  rw [SearchRequest.write_eq] at fits
  obtain ⟨surrounding, spells⟩ :=
    SearchRequest.Surrounding.spells_writeAround (Filter.single_toElement form) size time fits
  have tooDeep := Filter.ofElement_tooDeep Filter.maxDepth form high
    (SearchRequest.fits_of_writeAround fits)
  have rejected : SearchRequest.ofValue (request.writeAround request.filter.toElement) =
      .error (.rejected .filterTooDeep) := by
    rw [SearchRequest.Surrounding.ofValue spells, tooDeep]
    rfl
  exact search_refused sound rejected

/-- No filter is too high. Each that is read is within the bound, from whatever octets; a search
that is written with a higher one is refused and answered, and its session goes on. A reader that
counts its depth upwards reads the same, and is never called for a depth beyond the bound. -/
theorem nesting_bounded :
    (∀ frame id request controls, decode frame = .ok ⟨id, .search request, controls⟩ →
      request.filter.height ≤ Filter.maxDepth) ∧
    (∀ id request controls, id ≤ maxInt → request.sizeLimit ≤ maxInt → request.timeLimit ≤ maxInt →
      request.filter.HasForm → Filter.maxDepth < request.filter.height →
      (write ⟨id, .search request, controls⟩).length < 2 ^ 32 →
      Refusal.Answers ⟨id, .searchDone, .protocolError, "Filter nesting too deep"⟩
        (write ⟨id, .search request, controls⟩)) ∧
    ∀ element, (Filter.readAt 0 element).outcome = Filter.ofElement Filter.maxDepth element ∧
      ∀ depth ∈ (Filter.readAt 0 element).depths, depth ≤ Filter.maxDepth := by
  refine ⟨?_, ?_, ?_⟩
  · intro frame id request controls accepted
    obtain ⟨-, -, -, low⟩ := (hasForm_of_decode accepted).request
    exact low
  · intro id request controls low size time form high short
    exact tooDeep_refused low size time form high short
  · intro element
    obtain ⟨outcome, depths⟩ := Filter.readAt_reads Filter.maxDepth (Nat.zero_add _) element
    exact ⟨outcome, depths⟩

def negations : Nat → Filter
  | 0 => .present "cn"
  | count + 1 => .not (negations count)

theorem hasForm_negations (count : Nat) : (negations count).HasForm := by
  induction count with
  | zero => exact .present "cn"
  | succ count ih => exact .not ih

theorem height_negations (count : Nat) : (negations count).height = count + 1 := by
  induction count with
  | zero => rfl
  | succ count ih => rw [negations, Filter.height, ih]

def negationSearch (count : Nat) : Message :=
  ⟨7, .search { base := "", scope := .subtree, filter := negations count }, []⟩

theorem nesting_bounded_negations :
    decode (negationSearch 63).write = .ok (negationSearch 63) ∧
    (negations 63).height ≤ Filter.maxDepth ∧
    Refusal.Answers ⟨7, .searchDone, .protocolError, "Filter nesting too deep"⟩
      (negationSearch 64).write ∧
    ∀ depth ∈ (Filter.readAt 0 (negations 64).toElement).depths, depth ≤ Filter.maxDepth := by
  obtain ⟨accepted, refused, depths⟩ := nesting_bounded
  have within : (negations 63).height ≤ Filter.maxDepth := by
    rw [height_negations]
    decide
  have beyond : Filter.maxDepth < (negations 64).height := by
    rw [height_negations]
    decide
  have read : decode (negationSearch 63).write = .ok (negationSearch 63) :=
    decode_write ⟨by decide, ⟨by decide, by decide, hasForm_negations 63, within⟩,
      .inr (.inr (by decide))⟩ (by decide +kernel)
  exact ⟨read, accepted _ _ _ _ read, refused 7 _ [] (by decide) (by decide) (by decide)
    (hasForm_negations 64) beyond (by decide +kernel), (depths _).2⟩

end Message

end LdapService

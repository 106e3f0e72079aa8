import LdapService.Proofs.Ber.Contents
import Mathlib.Data.List.Forall2

/-!
Runs of elements. Octets spell a list of elements if they are these one behind the other, under
length fields of any form. What a fold makes of such octets is what it makes of the list, and
whatever is read up to its end is such a run. Octets that are none are still a run up to where
the reading breaks, so every statement about a loop goes by the three cases of `octets_induction`.
-/

namespace LdapService.Ber

inductive Spells : Octets → List Element → Prop
  | nil : Spells [] []
  | cons (encoded : Encoded) {rest : Octets} {elements : List Element} (spells : Spells rest elements) :
      Spells (encoded.octets ++ rest) (encoded.element :: elements)

section Written

variable {α : Type} {tag : UInt8} {value rest : Octets} {elements : List Element}

theorem Spells.write (single : isMultiOctetTag tag = false) (fits : Octets.Fits value)
    (spells : Spells rest elements) :
    Spells (Element.write tag value ++ rest) (⟨tag, value⟩ :: elements) :=
  .cons (.written tag single fits) spells

theorem Spells.written (single : isMultiOctetTag tag = false) (fits : Octets.Fits value) :
    Spells (Element.write tag value) [⟨tag, value⟩] := by
  have alone := Spells.write single fits .nil
  rwa [List.append_nil] at alone

theorem Spells.flatMap {items : List α} (element : α → Element)
    (single : ∀ item ∈ items, isMultiOctetTag (element item).tag = false)
    (fits : Octets.Fits (items.flatMap fun item =>
      Element.write (element item).tag (element item).value)) :
    Spells (items.flatMap fun item => Element.write (element item).tag (element item).value)
      (items.map element) := by
  induction items with
  | nil => exact .nil
  | cons item rest ih =>
    obtain ⟨first, others⟩ := List.forall_mem_cons.1 single
    rw [List.flatMap_cons] at fits ⊢
    exact .write first (Element.fits_of_write fits.left) (ih others fits.right)

end Written

theorem Encoded.exists_of_read {input rest : Octets} {element : Element}
    (h : Element.read input = .ok (element, rest)) :
    ∃ encoded : Encoded, encoded.element = element ∧ input = encoded.octets ++ rest := by
  obtain ⟨tag, value⟩ := element
  obtain ⟨single, length, field, isField, count, rfl⟩ := Element.read_eq_ok_iff.1 h
  have measured : Length.IsField ⟨value.length, field.length⟩ field := by
    rw [count, isField.1]
    exact isField
  exact ⟨⟨tag, field, value, single, measured⟩, rfl, rfl⟩

theorem Element.length_value {input rest : Octets} {element : Element}
    (h : Element.read input = .ok (element, rest)) : element.value.length < input.length := by
  obtain ⟨encoded, rfl, rfl⟩ := Encoded.exists_of_read h
  simp only [Encoded.octets, Encoded.element, List.cons_append, List.length_cons,
    List.length_append]
  omega

theorem octets_induction {motive : Octets → Prop} (nil : motive [])
    (broken : ∀ input error, input ≠ [] → Element.read input = .error error → motive input)
    (cons : ∀ (encoded : Encoded) (rest : Octets), motive rest → motive (encoded.octets ++ rest))
    (input : Octets) : motive input := by
  induction size : input.length using Nat.strongRecOn generalizing input with
  | ind size ih =>
    by_cases empty : input = []
    · rw [empty]
      exact nil
    · cases read : Element.read input with
      | error error => exact broken input error empty read
      | ok found =>
        obtain ⟨element, rest⟩ := found
        have shorter := Element.length_read read
        obtain ⟨encoded, -, rfl⟩ := Encoded.exists_of_read read
        exact cons encoded rest (ih rest.length (by omega) rest rfl)

section Lists

variable {ε α β : Type} {raise : Error → ε}

theorem foldElements_broken {input : Octets} {error : Error} (nonempty : input ≠ [])
    (broken : Element.read input = .error error) (step : β → Element → Except ε β) (state : β) :
    foldElements raise step state input = .error (raise error) := by
  rw [foldElements, if_neg nonempty]
  split
  · next failed =>
    rw [broken] at failed
    cases failed
    rfl
  · next read =>
    rw [broken] at read
    cases read

/-- A fold that carries more than another one, and keeps what it carries in step. -/
theorem map_foldElements {γ : Type} (view : β → γ) {inStep : β → Prop} {step : β → Element → Except ε β}
    {step' : γ → Element → Except ε γ}
    (same : ∀ state found, inStep state → view <$> step state found = step' (view state) found)
    (keeps : ∀ state found next, inStep state → step state found = .ok next → inStep next)
    {state : β} (start : inStep state) (input : Octets) :
    view <$> foldElements raise step state input = foldElements raise step' (view state) input := by
  induction input using octets_induction generalizing state with
  | nil =>
    rw [foldElements_nil, foldElements_nil]
    rfl
  | broken input error nonempty broken =>
    rw [foldElements_broken nonempty broken, foldElements_broken nonempty broken]
    rfl
  | cons encoded rest ih =>
    rw [foldElements_octets, foldElements_octets, ← same state _ start]
    cases steps : step state encoded.element with
    | error error => rfl
    | ok next => exact ih (keeps _ _ _ start steps)

theorem foldElements_collected (item : Element → Except ε α) (input : Octets) (earlier : List α) :
    foldElements raise (fun values found => (item found).map (· :: values)) earlier input =
      (foldElements raise (fun values found => (item found).map (· :: values)) [] input).map
        (· ++ earlier) := by
  induction input using octets_induction generalizing earlier with
  | nil =>
    rw [foldElements_nil, foldElements_nil]
    rfl
  | broken input error nonempty broken =>
    rw [foldElements_broken nonempty broken, foldElements_broken nonempty broken]
    rfl
  | cons encoded rest ih =>
    rw [foldElements_octets, foldElements_octets]
    cases item encoded.element with
    | error error => rfl
    | ok value =>
      change foldElements _ _ (value :: earlier) rest = (foldElements _ _ [value] rest).map _
      rw [ih (value :: earlier), ih [value]]
      cases foldElements raise (fun values found => (item found).map (· :: values)) [] rest with
      | error error => rfl
      | ok values =>
        change Except.ok (values ++ value :: earlier) = .ok (values ++ [value] ++ earlier)
        rw [List.append_assoc]
        rfl

theorem mapElements_nil (item : Element → Except ε α) : mapElements raise item [] = .ok [] := by
  rw [mapElements, foldElements_nil]
  rfl

theorem mapElements_broken {input : Octets} {error : Error} (nonempty : input ≠ [])
    (broken : Element.read input = .error error) (item : Element → Except ε α) :
    mapElements raise item input = .error (raise error) := by
  rw [mapElements, foldElements_broken nonempty broken]
  rfl

theorem mapElements_octets (item : Element → Except ε α) (encoded : Encoded) (rest : Octets) :
    mapElements raise item (encoded.octets ++ rest) =
      item encoded.element >>= fun value => (value :: ·) <$> mapElements raise item rest := by
  rw [mapElements, foldElements_octets, mapElements]
  cases item encoded.element with
  | error error => rfl
  | ok value =>
    change (foldElements _ _ [value] rest).map _ = _
    rw [foldElements_collected]
    cases foldElements raise (fun values found => (item found).map (· :: values)) [] rest with
    | error error => rfl
    | ok values =>
      change Except.ok (values ++ [value]).reverse = .ok (value :: values.reverse)
      rw [List.reverse_concat]

theorem Spells.foldElements {octets : Octets} {elements : List Element}
    (spells : Spells octets elements) (step : β → Element → Except ε β) (state : β) :
    foldElements raise step state octets = elements.foldlM step state := by
  induction spells generalizing state with
  | nil => exact foldElements_nil step state
  | cons encoded spells ih =>
    rw [foldElements_octets, List.foldlM_cons]
    exact bind_congr ih

theorem Spells.mapElements {octets : Octets} {elements : List Element}
    (spells : Spells octets elements) (item : Element → Except ε α) :
    mapElements raise item octets = elements.mapM item := by
  induction spells with
  | nil => exact mapElements_nil item
  | cons encoded spells ih =>
    rw [mapElements_octets, ih, List.mapM_cons]
    rfl

theorem exists_spells_of_mapElements {item : Element → Except ε α} {octets : Octets}
    {values : List α} (h : mapElements raise item octets = .ok values) :
    ∃ elements, Spells octets elements := by
  induction octets using octets_induction generalizing values with
  | nil => exact ⟨[], .nil⟩
  | broken input error nonempty broken =>
    rw [mapElements_broken nonempty broken] at h
    cases h
  | cons encoded rest ih =>
    rw [mapElements_octets] at h
    obtain ⟨value, -, h⟩ := Reader.of_bind_ok h
    obtain ⟨others, read, -⟩ := Reader.of_map_ok h
    obtain ⟨elements, spells⟩ := ih read
    exact ⟨encoded.element :: elements, .cons encoded spells⟩

theorem mapM_eq_ok_iff {item : β → Except ε α} {items : List β} {values : List α} :
    items.mapM item = .ok values ↔
      List.Forall₂ (fun found value => item found = .ok value) items values := by
  induction items generalizing values with
  | nil =>
    rw [List.mapM_nil, List.forall₂_nil_left_iff]
    exact ⟨fun h => (Except.ok.inj h).symm, fun h => congrArg Except.ok h.symm⟩
  | cons found rest ih =>
    rw [List.mapM_cons, List.forall₂_cons_left_iff]
    constructor
    · intro h
      obtain ⟨value, first, h⟩ := Reader.of_bind_ok h
      obtain ⟨others, later, h⟩ := Reader.of_bind_ok h
      exact ⟨value, others, first, ih.1 later, (Except.ok.inj h).symm⟩
    · rintro ⟨value, others, first, later, rfl⟩
      rw [first, ih.2 later]
      rfl

theorem mapM_eq_error {item : β → Except ε α} {items : List β} {error : ε}
    (each : ∀ found ∈ items, (∃ value, item found = .ok value) ∨ item found = .error error)
    (some : ∃ found ∈ items, item found = .error error) : items.mapM item = .error error := by
  induction items with
  | nil =>
    obtain ⟨found, mem, -⟩ := some
    cases mem
  | cons found rest ih =>
    obtain ⟨first, others⟩ := List.forall_mem_cons.1 each
    rw [List.mapM_cons]
    rcases first with ⟨value, read⟩ | failed
    · obtain ⟨other, mem, failed⟩ := some
      rcases List.mem_cons.1 mem with rfl | mem
      · rw [read] at failed
        cases failed
      · rw [read, ih others ⟨other, mem, failed⟩]
        rfl
    · rw [failed]
      rfl

theorem mapElements_eq_ok_iff {item : Element → Except ε α} {octets : Octets} {values : List α} :
    mapElements raise item octets = .ok values ↔
      ∃ elements, Spells octets elements ∧
        List.Forall₂ (fun element value => item element = .ok value) elements values := by
  constructor
  · intro h
    obtain ⟨elements, spells⟩ := exists_spells_of_mapElements h
    rw [spells.mapElements, mapM_eq_ok_iff] at h
    exact ⟨elements, spells, h⟩
  · rintro ⟨elements, spells, h⟩
    rw [spells.mapElements, mapM_eq_ok_iff]
    exact h

end Lists

/-! Readers at a run: each takes the first element of it and leaves the others. -/

section Readers

variable {ε α : Type} {input rest : Octets} {element : Element} {elements : List Element}

theorem Spells.eq_nil_iff (spells : Spells input elements) : input = [] ↔ elements = [] := by
  cases spells with
  | nil => exact iff_of_true rfl rfl
  | cons encoded others => exact iff_of_false (List.cons_ne_nil _ _) (List.cons_ne_nil _ _)

theorem Spells.eq_nil (spells : Spells input []) : input = [] :=
  spells.eq_nil_iff.2 rfl

theorem Spells.exists_cons (spells : Spells input (element :: elements)) :
    ∃ (encoded : Encoded) (rest : Octets), encoded.element = element ∧
      input = encoded.octets ++ rest ∧ Spells rest elements := by
  generalize all : element :: elements = run at spells
  cases spells with
  | nil => cases all
  | cons encoded others =>
    obtain ⟨rfl, rfl⟩ := List.cons.inj all
    exact ⟨encoded, _, rfl, rfl, others⟩

theorem Reader.TakesOne.of_spells {reader : Reader ε α} {judge : Element → Except ε α}
    (takes : reader.TakesOne judge) (spells : Spells input (element :: elements)) :
    ∃ rest, Spells rest elements ∧ reader input = (judge element, rest) := by
  obtain ⟨encoded, rest, rfl, rfl, others⟩ := spells.exists_cons
  exact ⟨rest, others, takes encoded rest⟩

theorem Reader.exists_of_expect {tag : UInt8} {value : Octets}
    (h : expect tag input = (.ok value, rest)) :
    ∃ encoded : Encoded, encoded.element = ⟨tag, value⟩ ∧ input = encoded.octets ++ rest := by
  obtain ⟨found, between, read, h⟩ := bind_eq_ok h
  unfold Reader.element at read
  split at read
  · next whole =>
    cases read
    split at h
    · next same =>
      cases h
      obtain ⟨encoded, rfl, rfl⟩ := Encoded.exists_of_read whole
      exact ⟨encoded, by rw [← same], rfl⟩
    · cases h
  · cases read

end Readers

end LdapService.Ber

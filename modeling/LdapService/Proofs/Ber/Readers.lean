import LdapService.Ber.Reader
import LdapService.Ber.Writer
import LdapService.Proofs.Ber.Elements
import LdapService.Proofs.Ber.Integers

/-!
What the readers make of what the writers wrote. Every reader takes exactly its
own element and leaves what follows. A list of elements is read item by item.
-/

namespace LdapService.Ber

theorem Integer.fits_write {value : Int} (low : -2 ^ 63 ≤ value) (high : value < 2 ^ 63) :
    Octets.Fits (write value) := by
  have short := length_writeBefore_le 7 [] value (by omega) (by omega)
  unfold Octets.Fits write
  rw [List.length_nil] at short
  omega

namespace Reader

variable {ε δ α β : Type}

theorem pure_apply (value : α) (input : Octets) :
    (pure value : Reader ε α) input = (.ok value, input) := rfl

theorem peek_apply (input : Octets) :
    (peek : Reader ε (Option UInt8)) input = (.ok input.head?, input) := rfl

theorem ofExcept_apply (outcome : Except ε α) (input : Octets) :
    ofExcept outcome input = (outcome, input) := rfl

theorem mapError_of_ok {reader : Reader ε α} {input rest : Octets} {value : α}
    (h : reader input = (.ok value, rest)) (f : ε → δ) :
    reader.mapError f input = (.ok value, rest) := by
  rw [mapError, h]
  rfl

theorem bind_eq_ok {first : Reader ε α} {next : α → Reader ε β} {input rest : Octets} {value : β}
    (h : (first >>= next) input = (.ok value, rest)) :
    ∃ found between, first input = (.ok found, between) ∧ next found between = (.ok value, rest) := by
  cases begun : first input with
  | mk outcome between =>
    cases outcome with
    | ok found =>
      rw [bind_of_ok begun] at h
      exact ⟨found, between, rfl, h⟩
    | error error =>
      rw [bind_of_error begun] at h
      cases h

/-! What must have been read before an outcome was good. -/

section Backwards

theorem of_run_ok {reader : Reader ε α} {input : Octets} {value : α}
    (h : run input reader = .ok value) : ∃ rest, reader input = (.ok value, rest) :=
  ⟨(reader input).2, Prod.ext h rfl⟩

theorem of_mapError_ok {reader : Reader ε α} {f : ε → δ} {input rest : Octets} {value : α}
    (h : reader.mapError f input = (.ok value, rest)) : reader input = (.ok value, rest) := by
  unfold mapError at h
  cases read : reader input with
  | mk outcome left =>
    rw [read] at h
    cases outcome with
    | ok found => cases h; rfl
    | error error => cases h

theorem of_bind_ok {outcome : Except ε α} {next : α → Except ε β} {value : β}
    (h : (outcome >>= next) = .ok value) : ∃ found, outcome = .ok found ∧ next found = .ok value := by
  cases outcome with
  | ok found => exact ⟨found, rfl, h⟩
  | error error => cases h

theorem of_map_ok {outcome : Except ε α} {f : α → β} {value : β}
    (h : f <$> outcome = .ok value) : ∃ found, outcome = .ok found ∧ f found = value := by
  cases outcome with
  | ok found => cases h; exact ⟨found, rfl, rfl⟩
  | error error => cases h

end Backwards

theorem element_write {tag : UInt8} (single : isMultiOctetTag tag = false) {value : Octets}
    (h : Octets.Fits value) (rest : Octets) :
    element (Element.write tag value ++ rest) = (.ok ⟨tag, value⟩, rest) := by
  rw [element, Element.read_write single h]

theorem single_of_element {input rest : Octets} {found : Element}
    (h : element input = (.ok found, rest)) : isMultiOctetTag found.tag = false := by
  unfold element at h
  split at h
  · next read =>
    cases h
    exact Element.single_of_read read
  · cases h

theorem expect_write {tag : UInt8} (single : isMultiOctetTag tag = false) {value : Octets}
    (h : Octets.Fits value) (rest : Octets) :
    expect tag (Element.write tag value ++ rest) = (.ok value, rest) := by
  rw [expect, bind_of_ok (element_write single h rest), if_pos rfl]
  rfl

theorem optional_write {tag : UInt8} (single : isMultiOctetTag tag = false) {value : Octets}
    (h : Octets.Fits value) (rest : Octets) :
    optional tag (Element.write tag value ++ rest) = (.ok (some value), rest) := by
  have here : (Element.write tag value ++ rest).head? = some tag := rfl
  rw [optional, bind_of_ok (peek_apply _), if_pos here]
  exact bind_of_ok (expect_write single h rest)

theorem optional_absent {tag : UInt8} {input : Octets} (h : input.head? ≠ some tag) :
    optional tag input = (.ok none, input) := by
  rw [optional, bind_of_ok (peek_apply _), if_neg h]
  rfl

theorem integer_write {tag : UInt8} (single : isMultiOctetTag tag = false) {value : Int}
    (low : -2 ^ 63 ≤ value) (high : value < 2 ^ 63) (rest : Octets) :
    integer tag (writeInteger tag value ++ rest) = (.ok value, rest) := by
  rw [integer, writeInteger, bind_of_ok (expect_write single (Integer.fits_write low high) rest),
    ofExcept_apply, Integer.read_write low high]

theorem boolean_write (value : Bool) (rest : Octets) :
    boolean (writeBoolean value ++ rest) = (.ok value, rest) := by
  have fits : Octets.Fits [if value then 0xff else 0x00] := by
    change 1 < 2 ^ 32
    omega
  rw [boolean, writeBoolean, bind_of_ok (expect_write rfl fits rest)]
  cases value
  · rfl
  · rfl

theorem textOf_utf8 (text : String) : textOf (Text.utf8 text) = .ok text := by
  rw [textOf, Text.ofUtf8?_utf8]

theorem text_write {tag : UInt8} (single : isMultiOctetTag tag = false) {text : String}
    (h : Octets.Fits (writeText tag text)) (rest : Octets) :
    Reader.text tag (writeText tag text ++ rest) = (.ok text, rest) := by
  rw [Reader.text, writeText, bind_of_ok (expect_write single (Element.fits_of_write h) rest),
    ofExcept_apply, textOf_utf8]

theorem optionalText_write {tag : UInt8} (single : isMultiOctetTag tag = false) {text : String}
    (h : Octets.Fits (writeText tag text)) (rest : Octets) :
    optionalText tag (writeText tag text ++ rest) = (.ok (some text), rest) := by
  rw [optionalText, writeText, bind_of_ok (optional_write single (Element.fits_of_write h) rest)]
  simp only [textOf_utf8]
  rfl

theorem optionalText_absent {tag : UInt8} {input : Octets} (h : input.head? ≠ some tag) :
    optionalText tag input = (.ok none, input) := by
  rw [optionalText, bind_of_ok (optional_absent h)]
  rfl

theorem finish_nil : finish [] = (.ok (), []) := rfl

/-- The empty rest lets the last element be read like the others. -/
theorem run_eq {reader : Reader ε α} {input : Octets} {value : α}
    (h : reader (input ++ []) = (.ok value, [])) : run input reader = .ok value := by
  rw [List.append_nil] at h
  rw [run, h]

theorem run_bind {reader : Reader ε α} {next : α → Except ε β} {input : Octets} {found : α}
    {outcome : Except ε β} (h : reader (input ++ []) = (.ok found, []))
    (goesOn : next found = outcome) : (run input reader >>= next) = outcome := by
  rw [run_eq h]
  exact goesOn

end Reader

section Lists

variable {ε α β : Type} {raise : Error → ε}

theorem foldElements_nil (step : β → Element → Except ε β) (state : β) :
    foldElements raise step state [] = .ok state := by
  rw [foldElements, if_pos rfl]

theorem foldElements_write {step : β → Element → Except ε β} {state next : β} {tag : UInt8}
    {value : Octets} (single : isMultiOctetTag tag = false) (h : Octets.Fits value)
    (steps : step state ⟨tag, value⟩ = .ok next) (rest : Octets) :
    foldElements raise step state (Element.write tag value ++ rest) =
      foldElements raise step next rest := by
  have read := Element.read_write single h rest
  have present : Element.write tag value ++ rest ≠ [] := List.cons_ne_nil _ _
  rw [foldElements, if_neg present]
  split
  · next failed =>
    rw [read] at failed
    cases failed
  · next done =>
    rw [read] at done
    cases done
    rw [steps]

def IsElementOf (item : Element → Except ε α) (octets : Octets) (value : α) : Prop :=
  ∃ tag content, isMultiOctetTag tag = false ∧ octets = Element.write tag content ∧
    item ⟨tag, content⟩ = .ok value

theorem foldElements_flatMap {item : Element → Except ε α} {write : α → Octets} {values : List α}
    (read : ∀ value ∈ values, IsElementOf item (write value) value)
    (fits : ∀ value ∈ values, Octets.Fits (write value)) (earlier : List α) :
    foldElements raise (fun values found => (item found).map (· :: values)) earlier
      (values.flatMap write) = .ok (values.reverse ++ earlier) := by
  induction values generalizing earlier with
  | nil => exact foldElements_nil _ _
  | cons value rest ih =>
    obtain ⟨⟨tag, content, single, written, found⟩, others⟩ := List.forall_mem_cons.1 read
    obtain ⟨short, shorts⟩ := List.forall_mem_cons.1 fits
    rw [written] at short
    have step : (item ⟨tag, content⟩).map (· :: earlier) = .ok (value :: earlier) := by
      rw [found]
      rfl
    rw [List.flatMap_cons, written, foldElements_write single (Element.fits_of_write short) step,
      ih others shorts]
    simp

theorem mapElements_flatMap {item : Element → Except ε α} {write : α → Octets} {values : List α}
    (read : ∀ value ∈ values, IsElementOf item (write value) value)
    (fits : Octets.Fits (values.flatMap write)) :
    mapElements raise item (values.flatMap write) = .ok values := by
  rw [mapElements, foldElements_flatMap read fun value mem => fits.of_mem mem]
  simp [Except.map]

theorem foldElements_keeps {step : β → Element → Except ε β} {kept : β → Prop}
    (keeps : ∀ state found next, isMultiOctetTag found.tag = false → kept state →
      step state found = .ok next → kept next) {state final : β} {input : Octets}
    (start : kept state) (h : foldElements raise step state input = .ok final) : kept final := by
  fun_induction foldElements raise step state input with
  | case1 => cases h; exact start
  | case2 => cases h
  | case3 => cases h
  | case4 state input nonempty found rest read next steps ih =>
    exact ih (keeps _ _ _ (Element.single_of_read read) start steps) h

theorem foldElements_makes {step : β → Element → Except ε β} {made : β → Prop}
    (makes : ∀ state found next, step state found = .ok next → made next) {state final : β}
    {input : Octets} (nonempty : input ≠ []) (h : foldElements raise step state input = .ok final) :
    made final := by
  rw [foldElements, if_neg nonempty] at h
  split at h
  · cases h
  · next found rest read =>
    split at h
    · cases h
    · next next steps =>
      exact foldElements_keeps (fun state found next _ _ => makes state found next)
        (makes _ _ _ steps) h

theorem mapElements_mem {item : Element → Except ε α} {input : Octets} {values : List α}
    (h : mapElements raise item input = .ok values) :
    ∀ value ∈ values, ∃ found, isMultiOctetTag found.tag = false ∧ item found = .ok value := by
  unfold mapElements at h
  cases folded : foldElements raise (fun values found => (item found).map (· :: values)) []
      input with
  | error error => rw [folded] at h; cases h
  | ok reversed =>
    rw [folded] at h
    cases h
    let WasRead (value : α) := ∃ found, isMultiOctetTag found.tag = false ∧ item found = .ok value
    have keeps (earlier : List α) (found : Element) (values : List α)
        (single : isMultiOctetTag found.tag = false) (kept : ∀ value ∈ earlier, WasRead value)
        (steps : (item found).map (· :: earlier) = .ok values) :
        ∀ value ∈ values, WasRead value := by
      cases read : item found with
      | error error => rw [read] at steps; cases steps
      | ok value =>
        rw [read] at steps
        cases steps
        exact List.forall_mem_cons.2 ⟨⟨found, single, read⟩, kept⟩
    have all : ∀ value ∈ reversed, WasRead value :=
      foldElements_keeps keeps (List.forall_mem_nil _) folded
    exact fun value mem => all value (List.mem_reverse.1 mem)

end Lists

end LdapService.Ber

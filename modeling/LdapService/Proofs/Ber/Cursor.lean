import LdapService.Proofs.Ber.Runs

/-!
# A cursor over octets

A reader gives back what is left of the octets. Here the octets stay whole and a position moves
through them: what is read is a slice, and a slice whose bounds are not in order, or not inside the
octets, is a failure of its own that no reader knows. From a position inside the octets no action
of a cursor comes to that failure, and each follows the reader of the remaining octets.
-/

namespace LdapService

namespace Octets

structure OutOfBounds where
  first : Nat
  last : Nat
  deriving DecidableEq, Repr

def slice (octets : Octets) (first last : Nat) : Except OutOfBounds Octets :=
  if first ≤ last ∧ last ≤ octets.length then .ok ((octets.drop first).take (last - first))
  else .error ⟨first, last⟩

theorem slice_to_end {octets : Octets} {position : Nat} (within : position ≤ octets.length) :
    slice octets position octets.length = .ok (octets.drop position) := by
  rw [slice, if_pos ⟨within, Nat.le_refl _⟩, ← List.length_drop, List.take_length]

theorem slice_between (front value rest : Octets) :
    slice (front ++ value ++ rest) front.length (front.length + value.length) = .ok value := by
  rw [slice, if_pos, List.append_assoc, List.drop_left, Nat.add_sub_cancel_left, List.take_left]
  simp only [List.length_append]
  omega

end Octets

namespace Ber

open Octets (OutOfBounds slice)

def Length.readSliced (input : Octets) : Except OutOfBounds (Except Error (Option Length)) := do
  match input with
  | [] => return .ok none
  | first :: _ =>
      if first < 0x80 then return .ok (some ⟨first.toNat, 1⟩)
      if first = 0x80 then return .error .indefiniteLength
      let count := (first &&& 0x7f).toNat
      if 4 < count then return .error (.lengthTooLarge count)
      if input.length < 1 + count then return .ok none
      let digits ← slice input 1 (1 + count)
      return .ok (some ⟨Octets.toNat digits, 1 + count⟩)

theorem Length.readSliced_eq (input : Octets) : readSliced input = .ok (read input) := by
  cases input with
  | nil => rfl
  | cons first rest =>
    simp only [readSliced, read]
    split
    · rfl
    · next long =>
      split
      · rfl
      · have count : (first &&& 0x7f).toNat = first.toNat - 0x80 := by
          have octet := first.toNat_lt
          rw [UInt8.lt_iff_toNat_lt] at long
          change ¬first.toNat < 128 at long
          rw [UInt8.toNat_and]
          change first.toNat &&& 2 ^ 7 - 1 = first.toNat - 128
          rw [Nat.and_two_pow_sub_one_eq_mod]
          omega
        rw [count]
        split
        · rfl
        · cases cut : Octets.cut? (first.toNat - 0x80) rest with
          | none =>
            have short := Octets.cut?_eq_none_iff.1 cut
            rw [if_pos (by rw [List.length_cons]; omega)]
            rfl
          | some parts =>
            obtain ⟨digits, after⟩ := parts
            obtain ⟨rfl, size⟩ := Octets.cut?_eq_some_iff.1 cut
            have cuts := Octets.slice_between [first] digits after
            rw [← size, if_neg (by simp only [List.length_cons, List.length_append]; omega)]
            change (slice (first :: (digits ++ after)) 1 (1 + digits.length) >>= _) = _
            rw [show slice (first :: (digits ++ after)) 1 (1 + digits.length) = .ok digits from cuts]
            rfl

theorem Encoded.two_le_length (encoded : Encoded) : 2 ≤ encoded.octets.length := by
  have read := encoded.read_octets []
  have shorter := Element.length_read read
  rw [List.append_nil] at shorter
  exact shorter

/-- Octets with the position from which the next element is read. -/
structure Cursor where
  octets : Octets
  position : Nat

namespace Cursor

/-- What can be done with a cursor. A slice out of bounds ends everything. -/
abbrev Action (α : Type) : Type := Cursor → Except OutOfBounds (Except Error α × Cursor)

variable {α β : Type}

def settle (outcome : Except Error α) : Action α :=
  fun cursor => .ok (outcome, cursor)

def andThen (action : Action α) (next : α → Action β) : Action β := fun cursor => do
  match ← action cursor with
  | (.ok value, cursor) => next value cursor
  | (.error error, cursor) => return (.error error, cursor)

def element : Action Element := fun cursor => do
  let rest ← slice cursor.octets cursor.position cursor.octets.length
  match rest with
  | [] => return (.error .truncated, cursor)
  | tag :: after =>
      if isMultiOctetTag tag then return (.error .multiOctetTag, cursor)
      match ← Length.readSliced after with
      | .error error => return (.error error, cursor)
      | .ok none => return (.error .truncated, cursor)
      | .ok (some length) =>
          let first := 1 + length.size
          let last := first + length.value
          if rest.length < last then return (.error .truncated, cursor)
          let value ← slice rest first last
          return (.ok ⟨tag, value⟩, { cursor with position := cursor.position + last })

def expect (tag : UInt8) : Action Octets :=
  andThen element fun found =>
    settle (if found.tag = tag then .ok found.value else .error (.unexpectedTag tag found.tag))

def peek : Action (Option UInt8) :=
  fun cursor => .ok (.ok cursor.octets[cursor.position]?, cursor)

def optional (tag : UInt8) : Action (Option Octets) :=
  andThen peek fun next =>
    if next = some tag then andThen (expect tag) fun value => settle (.ok (some value))
    else settle (.ok none)

def integer (tag : UInt8) : Action Int :=
  andThen (expect tag) fun value => settle (Integer.read value)

def boolean : Action Bool :=
  andThen (expect 0x01) fun value => settle (Reader.booleanOf value)

def text (tag : UInt8) : Action String :=
  andThen (expect tag) fun value => settle (Reader.textOf value)

def finish : Action Unit := fun cursor =>
  .ok (if cursor.octets.length ≤ cursor.position then .ok () else .error .trailingData, cursor)

/-- An action with a cursor inside its octets does what the reader does with what is left of
them, and the cursor stays inside and does not move back. -/
def Follows (action : Action α) (reader : Reader Error α) : Prop :=
  ∀ cursor : Cursor, cursor.position ≤ cursor.octets.length → ∃ outcome position,
    action cursor = .ok (outcome, { cursor with position }) ∧
      reader (cursor.octets.drop cursor.position) = (outcome, cursor.octets.drop position) ∧
      cursor.position ≤ position ∧ position ≤ cursor.octets.length

theorem follows_settle (outcome : Except Error α) :
    Follows (settle outcome) (Reader.ofExcept outcome) :=
  fun cursor within => ⟨outcome, cursor.position, rfl, rfl, Nat.le_refl _, within⟩

theorem Follows.andThen {action : Action α} {next : α → Action β} {reader : Reader Error α}
    {readNext : α → Reader Error β} (follows : Follows action reader)
    (goesOn : ∀ value, Follows (next value) (readNext value)) :
    Follows (andThen action next) (reader >>= readNext) := by
  intro cursor within
  obtain ⟨outcome, position, acts, reads, forward, inside⟩ := follows cursor within
  cases outcome with
  | error error =>
    refine ⟨.error error, position, ?_, Reader.bind_of_error reads, forward, inside⟩
    rw [Cursor.andThen, acts]
    rfl
  | ok value =>
    obtain ⟨outcome, last, acts', reads', forward', inside'⟩ :=
      goesOn value { cursor with position } inside
    refine ⟨outcome, last, ?_, ?_, Nat.le_trans forward forward', inside'⟩
    · rw [Cursor.andThen, acts]
      exact acts'
    · rw [Reader.bind_of_ok reads]
      exact reads'

theorem element_eq {cursor : Cursor} (within : cursor.position ≤ cursor.octets.length) :
    element cursor = .ok (match Element.read (cursor.octets.drop cursor.position) with
      | .ok (found, rest) =>
          (.ok found, { cursor with position := cursor.octets.length - rest.length })
      | .error error => (.error error, cursor)) := by
  have all : cursor.octets.length - cursor.position =
    (cursor.octets.drop cursor.position).length := List.length_drop.symm
  simp only [element, Octets.slice_to_end within, bind, Except.bind]
  generalize cursor.octets.drop cursor.position = rest at all
  cases rest with
  | nil => rfl
  | cons tag after =>
    simp only [Element.read]
    split
    · rfl
    · simp only [Length.readSliced_eq, bind, Except.bind]
      split
      · next error found => rw [found]; rfl
      · next found => rw [found]; rfl
      · next length found =>
        rw [found]
        obtain ⟨field, behind, rfl, isField⟩ := Length.exists_isField found
        simp only [← isField.1, List.drop_left]
        cases cut : Octets.cut? length.value behind with
        | none =>
          have short := Octets.cut?_eq_none_iff.1 cut
          rw [if_pos (by simp only [List.length_cons, List.length_append]; omega)]
          rfl
        | some parts =>
          obtain ⟨value, left⟩ := parts
          obtain ⟨rfl, size⟩ := Octets.cut?_eq_some_iff.1 cut
          have cuts := Octets.slice_between (tag :: field) value left
          simp only [List.length_cons, List.length_append] at all
          rw [if_neg (by simp only [List.length_cons, List.length_append]; omega)]
          have bounds : slice (tag :: (field ++ (value ++ left))) (1 + field.length)
              (1 + field.length + length.value) = .ok value := by
            rw [← size, Nat.add_comm 1, ← List.append_assoc]
            exact cuts
          have moved : cursor.position + (1 + field.length + length.value) =
              cursor.octets.length - left.length := by omega
          let there (position : Nat) : Except OutOfBounds (Except Error Element × Cursor) :=
            .ok (.ok ⟨tag, value⟩, { cursor with position })
          rw [bounds]
          exact congrArg there moved

theorem follows_element : Follows element Reader.element := by
  intro cursor within
  rw [element_eq within, Reader.element]
  cases read : Element.read (cursor.octets.drop cursor.position) with
  | error error => exact ⟨.error error, cursor.position, rfl, rfl, Nat.le_refl _, within⟩
  | ok found =>
    obtain ⟨element, rest⟩ := found
    have shorter := Element.length_read read
    obtain ⟨encoded, -, all⟩ := Encoded.exists_of_read read
    rw [List.length_drop] at shorter
    refine ⟨.ok element, cursor.octets.length - rest.length, rfl, ?_, by omega, Nat.sub_le _ _⟩
    have whole : cursor.octets =
        (cursor.octets.take cursor.position ++ encoded.octets) ++ rest := by
      rw [List.append_assoc, ← all, List.take_append_drop]
    generalize cursor.octets.take cursor.position ++ encoded.octets = front at whole
    rw [whole, List.length_append, Nat.add_sub_cancel, List.drop_left]

theorem follows_expect (tag : UInt8) : Follows (expect tag) (Reader.expect tag) := by
  refine follows_element.andThen fun found => ?_
  split
  · exact follows_settle (.ok found.value)
  · exact follows_settle _

theorem follows_peek : Follows peek Reader.peek := by
  intro cursor within
  refine ⟨_, cursor.position, rfl, ?_, Nat.le_refl _, within⟩
  rw [Reader.peek_apply, List.head?_drop]

theorem follows_optional (tag : UInt8) : Follows (optional tag) (Reader.optional tag) := by
  refine follows_peek.andThen fun next => ?_
  split
  · exact (follows_expect tag).andThen fun value => follows_settle (.ok (some value))
  · exact follows_settle (.ok none)

theorem follows_finish : Follows finish Reader.finish := by
  intro cursor within
  refine ⟨_, cursor.position, rfl, ?_, Nat.le_refl _, within⟩
  by_cases behind : cursor.octets.length ≤ cursor.position
  · rw [List.drop_of_length_le behind, if_pos behind]
    rfl
  · have more := List.drop_eq_nil_iff.not.2 behind
    obtain ⟨next, rest, left⟩ := List.exists_cons_of_ne_nil more
    rw [left, if_neg behind]
    rfl

end Cursor

end Ber

end LdapService

import LdapService.Message.Decode
import LdapService.Proofs.Ber.Readers
import LdapService.Proofs.Message.Framing

/-!
Two readers of one header. The framer looks for the end of a message in a growing
buffer, under a limit; the decoder takes the outer sequence off a complete frame. They
draw the same boundary: what is cut off is one whole sequence, and what is one whole
sequence is cut off, whatever stands behind it. Neither adds up more than a word holds.
-/

namespace LdapService

open Ber

namespace Message

def outer (frame : Octets) : Except Ber.Error Octets :=
  Reader.run frame do
    let body ← Reader.expect Tag.sequence
    Reader.finish
    return body

def ofBody (body : Octets) : Except DecodeError Message :=
  match Envelope.ofBody body with
  | .error cause => .error (.ofMalformation cause)
  | .ok envelope => ofEnvelope envelope

/-- Reading a frame is taking the outer sequence off and judging its content. -/
theorem decode_eq (frame : Octets) : decode frame =
    match outer frame with
    | .error error => .error (.ofMalformation (.encoding error))
    | .ok body => ofBody body := by
  have taken : Envelope.ofFrame frame =
      ((outer frame).mapError Malformation.encoding >>= Envelope.ofBody) := rfl
  unfold decode
  rw [taken]
  cases outer frame with
  | error error => rfl
  | ok body => rfl

theorem outer_eq_ok_iff {frame body : Octets} :
    outer frame = .ok body ↔ Element.read frame = .ok (⟨Tag.sequence, body⟩, []) := by
  simp only [outer, Reader.run, Reader.expect, Reader.finish, Reader.element, Reader.atEnd,
    Reader.fail, bind, Reader.bind, pure]
  cases Element.read frame with
  | error error => simp
  | ok found =>
    obtain ⟨⟨tag, value⟩, rest⟩ := found
    by_cases sequence : tag = Tag.sequence
    · cases rest with
      | nil => simp [sequence, Reader.ofExcept]
      | cons next rest => simp [sequence, Reader.ofExcept]
    · simp [sequence, Reader.ofExcept]

end Message

namespace Frame

theorem length_eq_some_iff {limit total : Nat} {buffer : Octets} :
    length limit buffer = .ok (some total) ↔ total ≤ limit ∧ total ≤ buffer.length ∧
      ∃ field rest, buffer = Tag.sequence :: rest ∧ Ber.Length.read rest = .ok (some field) ∧
        total = 1 + field.size + field.value := by
  constructor
  · intro h
    have there := (two_le_of_length h).2
    cases buffer with
    | nil => cases h
    | cons tag rest =>
      simp only [length] at h
      split at h
      · cases h
      · next sequence =>
        split at h
        · cases h
        · cases h
        · next field found =>
          split at h
          · cases h
          · split at h
            · cases h
            · next within _ =>
              cases h
              obtain rfl := Decidable.not_not.1 sequence
              exact ⟨Nat.le_of_not_lt within, there, field, rest, rfl, found, rfl⟩
  · rintro ⟨within, there, field, rest, rfl, found, rfl⟩
    rw [List.length_cons] at there
    simp only [length, ne_eq, not_true_eq_false, if_false, found, List.length_take]
    rw [if_neg (by omega), if_neg (by omega)]

/-- What the framer cuts off is what the decoder takes for one whole sequence, if it is
there and not too long. -/
theorem length_eq_some_iff_outer {limit total : Nat} {buffer : Octets} :
    length limit buffer = .ok (some total) ↔ total ≤ limit ∧ total ≤ buffer.length ∧
      ∃ body, Message.outer (buffer.take total) = .ok body := by
  rw [length_eq_some_iff]
  refine and_congr_right fun _ => and_congr_right fun there => ?_
  simp only [Message.outer_eq_ok_iff, Element.read_eq_ok_iff, List.append_nil]
  constructor
  · rintro ⟨length, rest, rfl, found, rfl⟩
    obtain ⟨field, after, rfl, isField⟩ := Ber.Length.exists_isField found
    rw [← isField.1] at there ⊢
    simp only [List.length_cons, List.length_append] at there
    refine ⟨after.take length.value, rfl, length, field, isField, ?_, ?_⟩
    · rw [List.length_take]
      omega
    · rw [Nat.add_assoc, Nat.add_comm 1, List.take_succ_cons, List.take_length_add_append]
  · rintro ⟨body, single, length, field, isField, count, cut⟩
    have whole : buffer = Tag.sequence :: (field ++ (body ++ buffer.drop total)) := by
      rw [← List.append_assoc, ← List.cons_append, ← cut, List.take_append_drop]
    refine ⟨length, _, whole, isField.2 _, ?_⟩
    have counted := congrArg List.length cut
    rw [List.length_take, Nat.min_eq_left there, List.length_cons, List.length_append, count,
      isField.1] at counted
    omega

/-- The framer and the decoder agree. What is cut off is one whole sequence, and only its
content is judged after; what is one whole sequence is cut off as such. The sum that both
form of a header is the sum of the numbers, in words of 64 bits too. -/
theorem length_agrees_with_decode :
    (∀ {limit total : Nat} {buffer : Octets}, length limit buffer = .ok (some total) →
      2 ≤ total ∧ total ≤ min buffer.length limit ∧
        ∃ body, Message.outer (buffer.take total) = .ok body ∧
          Message.decode (buffer.take total) = Message.ofBody body) ∧
    (∀ {frame body : Octets}, Message.outer frame = .ok body → ∀ (rest : Octets) (limit : Nat),
      frame.length ≤ limit → length limit (frame ++ rest) = .ok (some frame.length)) ∧
    ∀ {input : Octets} {field : Ber.Length}, Ber.Length.read input = .ok (some field) →
      ((1 : UInt64) + .ofNat field.size).toNat = 1 + field.size ∧
        ((1 : UInt64) + .ofNat field.size + .ofNat field.value).toNat =
          1 + field.size + field.value := by
  refine ⟨?_, ?_, Ber.Length.word_sums_of_read⟩
  · intro limit total buffer cut
    obtain ⟨within, there, body, whole⟩ := length_eq_some_iff_outer.1 cut
    refine ⟨(two_le_of_length cut).1, Nat.le_min.2 ⟨there, within⟩, body, whole, ?_⟩
    rw [Message.decode_eq, whole]
  · intro frame body whole rest limit within
    refine length_eq_some_iff_outer.2 ⟨within, ?_, body, ?_⟩
    · rw [List.length_append]
      exact Nat.le_add_right _ _
    · rw [List.take_left, whole]

end Frame

end LdapService

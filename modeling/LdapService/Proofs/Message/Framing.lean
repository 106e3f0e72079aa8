import LdapService.Session.Settle
import LdapService.Proofs.Ber.Elements

/-!
Where messages end in a growing buffer. A boundary that was found, and an error,
stay what they are when more octets arrive; only "more is needed" can change. So
the octets of a complete message are cut off whatever stands behind them.
-/

namespace LdapService.Frame

theorem length_append {limit : Nat} {buffer : Octets} {outcome : Except Malformation (Option Nat)}
    (h : length limit buffer = outcome) (settled : outcome ≠ .ok none) (more : Octets) :
    length limit (buffer ++ more) = outcome := by
  subst h
  cases buffer with
  | nil => exact absurd rfl settled
  | cons tag rest =>
    simp only [length, List.cons_append] at settled ⊢
    split
    · rfl
    · next sequence =>
      simp only [sequence, if_false] at settled
      have kept := @Ber.Length.read_append rest
      split at settled
      · next error found => rw [kept found (by simp) more]
      · exact absurd rfl settled
      · next field found =>
        rw [kept found (by simp) more]
        simp only at settled ⊢
        split
        · rfl
        · next within =>
          simp only [within, if_false] at settled
          split at settled
          · exact absurd rfl settled
          · next enough =>
            rw [List.length_take] at enough
            rw [List.length_take, List.length_append, if_neg (by omega), if_neg (by
              rw [List.length_take]
              omega)]

theorem split_of_length {limit count : Nat} {buffer : Octets}
    (h : length limit buffer = .ok (some count)) :
    split limit buffer = .ok (some (buffer.take count, buffer.drop count)) := by
  simp only [split, h, bind, Except.bind, pure, Except.pure, Option.map_some]

theorem length_of_split {limit : Nat} {buffer frame rest : Octets}
    (h : split limit buffer = .ok (some (frame, rest))) :
    length limit buffer = .ok (some frame.length) ∧ buffer = frame ++ rest := by
  cases measured : length limit buffer with
  | error cause => simp [split, measured, bind, Except.bind] at h
  | ok found =>
    cases found with
    | none => simp [split, measured, bind, Except.bind, pure, Except.pure] at h
    | some count =>
      have within := (two_le_of_length measured).2
      rw [split_of_length measured] at h
      cases h
      rw [List.length_take, Nat.min_eq_left within, List.take_append_drop]
      exact ⟨rfl, rfl⟩

theorem split_append_some {limit : Nat} {buffer frame rest : Octets}
    (h : split limit buffer = .ok (some (frame, rest))) (more : Octets) :
    split limit (buffer ++ more) = .ok (some (frame, rest ++ more)) := by
  obtain ⟨measured, rfl⟩ := length_of_split h
  rw [split_of_length (length_append measured (by simp) more), List.append_assoc,
    List.take_left, List.drop_left]

theorem split_append_error {limit : Nat} {buffer : Octets} {cause : Malformation}
    (h : split limit buffer = .error cause) (more : Octets) :
    split limit (buffer ++ more) = .error cause := by
  cases measured : length limit buffer with
  | error other =>
    have same : split limit buffer = .error other := by
      simp [split, measured, bind, Except.bind]
    rw [same] at h
    cases h
    simp [split, length_append measured (by simp) more, bind, Except.bind]
  | ok found => simp [split, measured, bind, Except.bind, pure, Except.pure] at h

def IsComplete (limit : Nat) (frame : Octets) : Prop :=
  length limit frame = .ok (some frame.length)

theorem IsComplete.split {limit : Nat} {frame : Octets} (h : IsComplete limit frame)
    (rest : Octets) : split limit (frame ++ rest) = .ok (some (frame, rest)) := by
  have alone : Frame.split limit frame = .ok (some (frame, [])) := by
    rw [split_of_length h, List.take_length, List.drop_length]
  exact split_append_some alone rest

theorem IsComplete.length_append {limit : Nat} {frame : Octets} (h : IsComplete limit frame)
    (rest : Octets) : length limit (frame ++ rest) = .ok (some frame.length) :=
  Frame.length_append h (by simp) rest

theorem isComplete_write {limit : Nat} {body : Octets} (h : Octets.Fits body)
    (within : (Ber.Element.write Tag.sequence body).length ≤ limit) :
    IsComplete limit (Ber.Element.write Tag.sequence body) := by
  simp only [Ber.Element.write, List.cons_append, List.length_cons, List.length_append] at within
  unfold IsComplete
  simp only [length, Ber.Element.write, List.cons_append, ne_eq, not_true_eq_false, if_false,
    Ber.Length.read_write h, List.length_cons, List.length_append, List.length_take]
  rw [if_neg (by omega), if_neg (by omega)]
  congr 2
  omega

end LdapService.Frame

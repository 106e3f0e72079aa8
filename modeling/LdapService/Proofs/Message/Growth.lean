import LdapService.Proofs.Message.Boundary

/-!
Framing while a buffer grows. More octets never change what the framer has decided; while it
has not decided, the buffer is short. A message that is too long is turned away with the last
octet of its length field, and a message that is cut short is never taken for one.
-/

namespace LdapService.Frame

variable {limit total : Nat} {buffer frame front header : Octets}

def IsHeader (total : Nat) (header : Octets) : Prop :=
  ∃ (length : Ber.Length) (field : Octets), length.IsField field ∧
    header = Tag.sequence :: field ∧ total = 1 + length.size + length.value

theorem length_lt_of_none (h : length limit buffer = .ok none) : buffer.length < max 6 limit := by
  cases buffer with
  | nil => exact Nat.lt_of_lt_of_le (Nat.succ_pos 5) (Nat.le_max_left 6 limit)
  | cons tag rest =>
    simp only [length] at h
    split at h
    · cases h
    · split at h
      · cases h
      · next missing =>
        have short := Ber.Length.length_lt_of_read_none missing
        rw [List.length_cons]
        omega
      · split at h
        · cases h
        · split at h
          · next within short =>
            rw [List.length_take] at short
            rw [List.length_cons]
            omega
          · cases h

theorem IsHeader.tooLong (isHeader : IsHeader total header) (exceeds : limit < total)
    (more : Octets) : length limit (header ++ more) = .error (.tooLong total limit) := by
  obtain ⟨field, octets, isField, rfl, rfl⟩ := isHeader
  simp only [length, List.cons_append, isField.2, ne_eq, not_true_eq_false, if_false, exceeds,
    if_true]

theorem IsHeader.length_front (isHeader : IsHeader total header) (begins : front <+: header)
    (part : front ≠ header) (limit : Nat) : length limit front = .ok none := by
  obtain ⟨field, octets, isField, rfl, -⟩ := isHeader
  cases front with
  | nil => rfl
  | cons tag rest =>
    obtain ⟨rfl, inside⟩ := List.cons_prefix_cons.1 begins
    have missing := isField.read_front inside (mt (congrArg _) part)
    simp only [length, ne_eq, not_true_eq_false, if_false, missing]

/-- A decision about the part would be one about the whole message. -/
theorem IsComplete.length_front (complete : IsComplete limit frame) (begins : front <+: frame)
    (part : front ≠ frame) : length limit front = .ok none := by
  obtain ⟨rest, rfl⟩ := begins
  by_cases settled : length limit front = .ok none
  · exact settled
  · have found : length limit front = .ok (some (front ++ rest).length) := by
      rw [← complete, Frame.length_append rfl settled]
    have within := (two_le_of_length found).2
    rw [List.length_append] at within
    have nothing : rest = [] := List.length_eq_zero_iff.1 (by omega)
    exact absurd (by rw [nothing, List.append_nil]) part

/-- Two messages of which one begins with the other are one, even if they are taken under
different limits, for the length is read off what both have. -/
theorem IsComplete.eq_of_prefix {limit' : Nat} {other : Octets} (complete : IsComplete limit frame)
    (complete' : IsComplete limit' other) (begins : other <+: frame) : other = frame := by
  obtain ⟨-, -, field, rest, rfl, found, count⟩ := length_eq_some_iff.1 complete'
  obtain ⟨more, rfl⟩ := begins
  obtain ⟨-, -, field', rest', same, found', count'⟩ := length_eq_some_iff.1 complete
  rw [List.cons_append] at same
  obtain ⟨-, rfl⟩ := List.cons.inj same
  rw [Ber.Length.read_append found (by simp)] at found'
  cases found'
  rw [← count, List.length_append] at count'
  have nothing : more = [] := List.length_eq_zero_iff.1 (by omega)
  rw [nothing, List.append_nil]

/-- A boundary that was found and an error stand, whatever arrives; more is asked for only
while the buffer is shorter than the limit, or than the longest header. A message beyond the
limit is an error from the last octet of its header on and not before. And every part of a
message that is one to its end asks for more, so that no message begins with another. -/
theorem length_incremental (limit : Nat) (buffer : Octets) :
    (length limit buffer ≠ .ok none →
      ∀ more, length limit (buffer ++ more) = length limit buffer) ∧
    (length limit buffer = .ok none → buffer.length < max 6 limit) ∧
    (∀ total, IsHeader total buffer →
      (limit < total → ∀ more, length limit (buffer ++ more) = .error (.tooLong total limit)) ∧
      ∀ front, front <+: buffer → front ≠ buffer → length limit front = .ok none) ∧
    (IsComplete limit buffer →
      (∀ front, front <+: buffer → front ≠ buffer → length limit front = .ok none) ∧
      ∀ limit' other, IsComplete limit' other → other <+: buffer → other = buffer) := by
  refine ⟨fun settled => Frame.length_append rfl settled, length_lt_of_none, ?_, ?_⟩
  · intro total isHeader
    exact ⟨isHeader.tooLong, fun front begins part => isHeader.length_front begins part limit⟩
  · intro complete
    exact ⟨fun front => complete.length_front, fun limit' other => complete.eq_of_prefix⟩

/-- Five octets of the longest header may be waited on, under any limit. -/
example : length 0 [0x30, 0x84, 0, 0, 0] = .ok none := by decide

end LdapService.Frame

import LdapService.Session.Basic

/-!
Running a session until it can go no further by itself. Every message takes
octets from the buffer and every handler comes to an end, so it always stops.
-/

namespace LdapService

namespace Frame

theorem two_le_of_length {limit total : Nat} {buffer : Octets}
    (h : length limit buffer = .ok (some total)) : 2 ≤ total ∧ total ≤ buffer.length := by
  unfold length at h
  split at h
  · cases h
  · next tag rest =>
    split at h
    · cases h
    · split at h
      · cases h
      · cases h
      · next field found =>
        simp only at h
        split at h
        · cases h
        · split at h
          · cases h
          · next enough =>
            cases h
            have sized : 1 ≤ field.size := Ber.Length.one_le_size_of_read found
            simp only [List.length_take] at enough
            simp only [List.length_cons]
            omega

theorem length_split {limit : Nat} {buffer frame rest : Octets}
    (h : split limit buffer = .ok (some (frame, rest))) : rest.length + 2 ≤ buffer.length := by
  simp only [split, bind, Except.bind, pure, Except.pure] at h
  split at h
  · cases h
  · next found measured =>
    cases found with
    | none => simp at h
    | some total =>
      simp only [Option.map_some, Except.ok.injEq, Option.some.injEq, Prod.mk.injEq] at h
      obtain ⟨-, rfl⟩ := h
      have := two_le_of_length measured
      rw [List.length_drop]
      omega

end Frame

namespace Session

variable {ω σ : Type}

/-- Bounds the messages that are still to come. -/
def weight (session : Session σ) : Nat :=
  match session.phase with
  | .ended _ | .dropped => 0
  | .idle => 1
  | .ready => 2 * session.buffer.length + 2
  | .settled _ => 2 * session.buffer.length + 3
  | .busy _ => 2 * session.buffer.length + 4

def program (session : Session σ) : Program streaming σ (Except Failure Reply) :=
  match session.phase with
  | .busy task => task.program
  | _ => .crash session.connection.memory none

theorem weight_finish (result : Except ServiceError Unit) (session : Session σ) :
    (session.finish result).weight = 0 := rfl

theorem weight_follow (flow : Flow) (session : Session σ) :
    (session.follow flow).weight ≤ 2 * session.buffer.length + 2 := by
  cases flow
  · exact Nat.le_refl _
  · exact Nat.zero_le _

theorem weight_takeMessage (handler : Handler σ) (now : Nat) (frame : Octets)
    (session : Session σ) :
    (session.takeMessage handler now frame).weight ≤ 2 * session.buffer.length + 4 := by
  unfold takeMessage
  simp only
  split
  · exact Nat.le_trans (weight_follow _ _) (Nat.le_add_right _ 2)
  · split
    · exact Nat.le_succ _
    · exact Nat.le_refl _

theorem weight_next (handler : Handler σ) (now : Nat) (signal : Signal) (session : Session σ) :
    (session.next handler now signal).weight < 2 * session.buffer.length + 2 := by
  unfold next
  split
  · exact Nat.succ_pos _
  · split
    · exact Nat.succ_pos _
    · split
      · unfold reject
        simp only [DecodeError.ofMalformation, Connection.reject]
        exact Nat.succ_pos _
      · simp only [weight]
        omega
      · next frame rest cut =>
        have shorter := Frame.length_split cut
        have := weight_takeMessage handler now frame { session with buffer := rest }
        simp only at this
        omega

/-- A step takes a message off, or goes on with the same one. -/
theorem step_decreases {handler : Handler σ} {environment : Environment ω} {now : Nat}
    {signal : Signal} {outside outside' : ω} {session session' : Session σ}
    (h : session.step handler environment now signal outside = some (outside', session')) :
    session'.weight < session.weight ∨
      session'.weight = session.weight ∧ Program.Follows session'.program session.program := by
  unfold step at h
  split at h
  · next phase =>
    simp only [Option.some.injEq, Prod.mk.injEq] at h
    obtain ⟨-, rfl⟩ := h
    refine .inl ?_
    have := weight_next handler now signal session
    simpa only [weight, phase] using this
  · next phase =>
    split at h
    · cases h
    · simp only [Option.some.injEq, Prod.mk.injEq] at h
      obtain ⟨-, rfl⟩ := h
      refine .inl ?_
      have ended : session.finishShutdown.weight = 0 := weight_finish ..
      rw [ended]
      simp [weight, phase]
  · next task phase =>
    split at h
    · cases h
    · next stepped =>
      simp only [Option.some.injEq, Prod.mk.injEq] at h
      obtain ⟨-, rfl⟩ := h
      refine .inr ⟨by simp only [weight, phase], ?_⟩
      simp only [program, phase]
      exact Task.follows_of_step stepped
    · simp only [Option.some.injEq, Prod.mk.injEq] at h
      obtain ⟨-, rfl⟩ := h
      refine .inl ?_
      simp only [weight, phase]
      omega
  · next flow phase =>
    simp only [Option.some.injEq, Prod.mk.injEq] at h
    obtain ⟨-, rfl⟩ := h
    refine .inl ?_
    have followed := weight_follow flow session
    simp only [weight, phase] at followed ⊢
    omega
  · cases h
  · cases h

def settle (handler : Handler σ) (environment : Environment ω) (now : Nat) (signal : Signal)
    (outside : ω) (session : Session σ) : ω × Session σ :=
  match _ : session.step handler environment now signal outside with
  | none => (outside, session)
  | some (outside, session) => settle handler environment now signal outside session
termination_by (session.weight, session.program)
decreasing_by
  rcases step_decreases ‹_› with less | ⟨same, follows⟩
  · exact .left _ _ less
  · rw [same]
    exact .right _ follows

end Session

end LdapService

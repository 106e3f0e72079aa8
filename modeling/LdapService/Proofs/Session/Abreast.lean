import LdapService.Proofs.Session.Alone

/-!
Two services, all of whose connections stay in step at once. They go through the same
events; only a step of a session may be more or fewer steps on the other side, where
its handler asks other questions. The steps of one session leave the others in step.
-/

namespace LdapService.Service

variable {ω ω' σ : Type} {served : Request → Prop} {here there : Contract backend}
  {good : ω → Prop} {good' : ω' → Prop} {first : Service ω σ} {second : Service ω' σ}

/-- The same events, each step as any number of steps of the same session. -/
inductive Paced : List Event → List Event → Prop
  | nil : Paced [] []
  | step {events paced : List Event} (number count : Nat) (rest : Paced events paced) :
      Paced (.stepped number :: events) (List.replicate count (.stepped number) ++ paced)
  | same {event : Event} {events paced : List Event} (other : ∀ number, event ≠ .stepped number)
      (rest : Paced events paced) : Paced (event :: events) (event :: paced)

/-- No client of any connection can tell the two apart. -/
def Abreast (served : Request → Prop) (here there : Contract backend) (good : ω → Prop)
    (good' : ω' → Prop) (first : Service ω σ) (second : Service ω' σ) : Prop :=
  ∀ number, InStep served here there good good' number first second

theorem Abreast.step (h : Abreast served here there good good' first second) (number : Nat)
    (takes : ∀ message, first.taken? (.stepped number) = some (number, message) →
      served message.request) :
    ∃ count, Abreast served here there good good' (first.apply (.stepped number))
      (second.run (List.replicate count (.stepped number))) := by
  obtain ⟨count, later⟩ := (h number).step takes
  refine ⟨count, fun other => ?_⟩
  by_cases own : other = number
  · rw [own]
    exact later
  · refine (h other).run [.stepped number] _ ((h other).toBeside.others _ _ ?_)
    intro event mem
    have stepped : event = .stepped number := by
      rcases List.mem_append.1 mem with mem | mem
      · exact List.mem_singleton.1 mem
      · exact List.eq_of_mem_replicate mem
    rw [stepped]
    exact ⟨number, rfl, Ne.symm own⟩

theorem Abreast.run (h : Abreast served here there good good' first second) (events : List Event)
    (takes : ∀ pair ∈ first.taken events, served pair.2.request) :
    ∃ paced, Paced events paced ∧
      Abreast served here there good good' (first.run events) (second.run paced) := by
  induction events generalizing first second with
  | nil => exact ⟨[], .nil, h⟩
  | cons event rest ih =>
    have later : ∀ pair ∈ (first.apply event).taken rest, served pair.2.request :=
      fun pair mem => takes pair (List.mem_append_right _ mem)
    by_cases stepped : ∃ number, event = .stepped number
    · obtain ⟨number, rfl⟩ := stepped
      obtain ⟨count, apart⟩ := h.step number fun message took =>
        takes (number, message) (List.mem_append_left _ (by rw [took]; exact List.mem_singleton_self _))
      obtain ⟨paced, matched, result⟩ := ih apart later
      refine ⟨_, .step number count matched, ?_⟩
      rw [run_append]
      exact result
    · have other : ∀ number, event ≠ .stepped number := fun number same => stepped ⟨number, same⟩
      obtain ⟨paced, matched, result⟩ := ih (fun number => (h number).same (other number)) later
      exact ⟨_, .same other matched, result⟩

end LdapService.Service

import LdapService.Proofs.Session.Upholds

/-!
The same for all sessions of a service at once. Each session may have its own
thing to keep to; what they share has to stay good under every step of any.
-/

namespace LdapService.Service

variable {ω σ : Type} {contract : Contract backend} {good : ω → Prop}
  {kept kept' : Nat → σ → Prop} {service : Service ω σ}

def taken? (service : Service ω σ) : Event → Option (Nat × Message)
  | .stepped number => do
      let session ← service.session? number
      let message ← session.taken? service.signal
      return (number, message)
  | _ => none

def taken (service : Service ω σ) : List Event → List (Nat × Message)
  | [] => []
  | event :: rest => (service.taken? event).toList ++ (service.apply event).taken rest

structure Upholds (contract : Contract backend) (good : ω → Prop) (kept : Nat → σ → Prop)
    (service : Service ω σ) : Prop where
  outside : good service.outside
  sessions : ∀ number session, service.session? number = some session →
    session.Upholds contract (kept number)

theorem Upholds.mono (h : service.Upholds contract good kept)
    (grows : ∀ number memory, kept number memory → kept' number memory) :
    service.Upholds contract good kept' := by
  refine ⟨h.outside, ?_⟩
  intro number session found
  exact (h.sessions number session found).mono (grows number)

theorem Upholds.put (h : service.Upholds contract good kept) {number : Nat} {outside : ω}
    {session : Session σ} (shared : good outside)
    (upheld : session.Upholds contract (kept number)) :
    ({ service with outside }.put number session).Upholds contract good kept := by
  refine ⟨shared, ?_⟩
  intro other found seen
  rw [session?_put] at seen
  split at seen
  · next same =>
    cases same
    cases seen
    exact upheld
  · exact h.sessions other found seen

theorem Upholds.alter (h : service.Upholds contract good kept) (number : Nat)
    {change : Session σ → Session σ}
    (keeps : ∀ session : Session σ, session.Upholds contract (kept number) →
      (change session).Upholds contract (kept number)) :
    (service.alter number change).Upholds contract good kept := by
  cases found : service.session? number with
  | none =>
    rw [alter_of_none found]
    exact h
  | some session =>
    rw [alter_of_some found]
    exact h.put h.outside (keeps session (h.sessions number session found))

theorem Upholds.connect (h : service.Upholds contract good kept) (number : Nat)
    (fresh : kept number service.fresh) :
    (service.connect number).Upholds contract good kept := by
  unfold Service.connect
  split
  · exact h
  · exact h.put h.outside (.of_quiet fresh fun ⟨_, busy⟩ => nomatch busy)

theorem Upholds.step (h : service.Upholds contract good kept)
    (keeps : contract.KeptBy service.environment.answer good) (number : Nat)
    (grows : ∀ number memory, kept number memory → kept' number memory)
    (performs : ∀ message before, service.taken? (.stepped number) = some (number, message) →
      kept number before → ((service.handler number).perform message.request before).Meets
        contract.toStreaming fun after _ => kept' number after) :
    (service.step number).Upholds contract good kept' := by
  unfold Service.step
  split
  · exact h.mono grows
  · next session found =>
    split
    · exact h.mono grows
    · next outside session' stepped =>
      have upheld := h.sessions number session found
      obtain ⟨shared, upheld'⟩ := session.step_upholds keeps upheld h.outside (grows number)
        (by
          intro message takes
          apply performs message _ _ upheld.memory
          simp [taken?, found, Option.mem_def.1 takes]) stepped
      exact (h.mono grows).put shared upheld'

theorem Upholds.apply (h : service.Upholds contract good kept)
    (keeps : contract.KeptBy service.environment.answer good) (event : Event)
    (fresh : ∀ number, kept number service.fresh)
    (grows : ∀ number memory, kept number memory → kept' number memory)
    (performs : ∀ number message before, service.taken? event = some (number, message) →
      kept number before → ((service.handler number).perform message.request before).Meets
        contract.toStreaming fun after _ => kept' number after) :
    (service.apply event).Upholds contract good kept' := by
  cases event with
  | connected number => exact (h.mono grows).connect number (grows _ _ (fresh number))
  | received number octets =>
    exact (h.mono grows).alter number fun _ upheld => upheld.receive octets
  | hungUp number => exact (h.mono grows).alter number fun _ upheld => upheld.hangUp
  | readFailed number error =>
    exact (h.mono grows).alter number fun _ upheld => upheld.readFailed error
  | transportFails number operation error =>
    exact (h.mono grows).alter number fun _ upheld => upheld.failTransport operation error
  | stepped number =>
    exact h.step keeps number grows (performs number)
  | woken number =>
    refine (h.mono grows).alter number fun _ upheld => ?_
    rw [upheld.wake_eq]
    exact upheld
  | dropped number => exact (h.mono grows).alter number fun _ upheld => upheld.drop
  | signalled signal =>
    change (service.heed signal).Upholds contract good kept'
    unfold heed
    split
    · exact ⟨h.outside, (h.mono grows).sessions⟩
    · exact h.mono grows
  | elapsed milliseconds => exact ⟨h.outside, (h.mono grows).sessions⟩

/-- A run. What each session keeps to may refer to the messages taken up so far:
more of them take nothing away, and every message that is taken up gives what its
own request may leave. -/
theorem Upholds.run (kept : List (Nat × Message) → Nat → σ → Prop)
    (earlier : List (Nat × Message)) (h : service.Upholds contract good (kept earlier))
    (keeps : contract.KeptBy service.environment.answer good)
    (fresh : ∀ messages number, kept messages number service.fresh)
    (grows : ∀ messages more number memory, kept messages number memory →
      kept (messages ++ more) number memory)
    (performs : ∀ messages number message before, kept messages number before →
      ((service.handler number).perform message.request before).Meets contract.toStreaming
        fun after _ => kept (messages ++ [(number, message)]) number after)
    (events : List Event) :
    (service.run events).Upholds contract good (kept (earlier ++ service.taken events)) := by
  induction events generalizing service earlier with
  | nil =>
    rw [taken, List.append_nil]
    exact h
  | cons event rest ih =>
    rw [run_cons, taken, ← List.append_assoc]
    apply ih
    · apply h.apply keeps event
      · exact fresh earlier
      · exact grows earlier _
      · intro number message before takes keptBefore
        rw [takes]
        exact performs earlier number message before keptBefore
    · rw [environment_apply]
      exact keeps
    · rw [fresh_apply]
      exact fresh
    · rw [handler_apply]
      exact performs

theorem Upholds.run_free (h : service.Upholds contract good fun _ _ => True)
    (keeps : contract.KeptBy service.environment.answer good)
    (meets : ∀ number request memory, ((service.handler number).perform request memory).Meets
      contract.toStreaming fun _ _ => True)
    (events : List Event) : (service.run events).Upholds contract good fun _ _ => True := by
  refine h.run (fun _ _ _ => True) [] keeps ?_ ?_ ?_ events
  · exact fun _ _ => trivial
  · exact fun _ _ _ _ _ => trivial
  · exact fun _ number message before _ => meets number message.request before

end LdapService.Service

import LdapService.Session.Service

/-!
What one event does to the sessions of a service. An event for one connection
leaves every other session as it was, and what a service is made of (handlers,
environment, limit) is never changed.
-/

namespace LdapService.Service

variable {ω σ : Type}

def Event.number? : Event → Option Nat
  | .connected number | .received number _ | .hungUp number | .readFailed number _
  | .transportFails number _ _ | .stepped number | .woken number | .dropped number => some number
  | .signalled _ | .elapsed _ => none

theorem find?_insert (number other : Nat) (session : Session σ)
    (sessions : List (Nat × Session σ)) :
    ((insert number session sessions).find? fun pair => pair.1 == other) =
      if number = other then some (number, session)
      else sessions.find? fun pair => pair.1 == other := by
  induction sessions with
  | nil =>
    by_cases same : number = other
    · simp [insert, same]
    · simp [insert, same]
  | cons pair rest ih =>
    have below : number < pair.1 → number ≠ pair.1 := Nat.ne_of_lt
    simp only [insert]
    by_cases same : number = other
    · subst same
      rw [if_pos rfl] at ih ⊢
      split
      · simp
      · split
        · simp
        · next later => simp [Ne.symm later, ih]
    · rw [if_neg same] at ih ⊢
      split
      · simp [same]
      · split
        · next taken => simp [same, ← taken]
        · rw [List.find?_cons, List.find?_cons, ih]

theorem session?_put (number other : Nat) (session : Session σ) (service : Service ω σ) :
    (service.put number session).session? other =
      if number = other then some session else service.session? other := by
  rw [session?, put, find?_insert]
  split
  · rfl
  · rfl

@[simp] theorem session?_put_self (number : Nat) (session : Session σ) (service : Service ω σ) :
    (service.put number session).session? number = some session := by
  rw [session?_put, if_pos rfl]

theorem session?_put_of_ne {number other : Nat} (ne : number ≠ other) (session : Session σ)
    (service : Service ω σ) :
    (service.put number session).session? other = service.session? other := by
  rw [session?_put, if_neg ne]

theorem alter_of_some {number : Nat} {service : Service ω σ} {session : Session σ}
    (found : service.session? number = some session) (change : Session σ → Session σ) :
    service.alter number change = service.put number (change session) := by
  rw [alter, found]

theorem alter_of_none {number : Nat} {service : Service ω σ}
    (missing : service.session? number = none) (change : Session σ → Session σ) :
    service.alter number change = service := by
  rw [alter, missing]

@[simp] theorem session?_alter_self (number : Nat) (change : Session σ → Session σ)
    (service : Service ω σ) :
    (service.alter number change).session? number = (service.session? number).map change := by
  cases found : service.session? number with
  | none => rw [alter_of_none found, found, Option.map_none]
  | some session => rw [alter_of_some found, session?_put_self, Option.map_some]

theorem apply_of_number? {event : Event} {number : Nat} (address : event.number? = some number)
    (service : Service ω σ) :
    service.apply event = service ∨
      ∃ outside session, service.apply event = { service with outside }.put number session := by
  have altered (change : Session σ → Session σ) :
      service.alter number change = service ∨ ∃ outside session,
        service.alter number change = { service with outside }.put number session := by
    unfold alter
    split
    · exact .inr ⟨_, _, rfl⟩
    · exact .inl rfl
  cases event with
  | connected =>
    cases address
    simp only [apply, connect]
    split
    · exact .inl rfl
    · exact .inr ⟨service.outside, _, rfl⟩
  | stepped =>
    cases address
    simp only [apply, step]
    split
    · exact .inl rfl
    · split
      · exact .inl rfl
      · exact .inr ⟨_, _, rfl⟩
  | received | hungUp | readFailed | transportFails | woken | dropped =>
    cases address
    exact altered _
  | signalled => cases address
  | elapsed => cases address

/-- What an event can change at all. -/
theorem apply_eq_with (service : Service ω σ) (event : Event) :
    ∃ outside now signal sessions,
      service.apply event = { service with outside, now, signal, sessions } := by
  cases address : event.number? with
  | some number =>
    rcases apply_of_number? address service with same | ⟨outside, session, same⟩
    · exact ⟨_, _, _, _, same⟩
    · exact ⟨_, _, _, _, same⟩
  | none =>
    cases event with
    | signalled signal =>
      simp only [apply, heed]
      split
      · exact ⟨_, _, _, _, rfl⟩
      · exact ⟨_, _, _, _, rfl⟩
    | elapsed => exact ⟨_, _, _, _, rfl⟩
    | _ => cases address

@[simp] theorem handler_apply (service : Service ω σ) (event : Event) :
    (service.apply event).handler = service.handler := by
  obtain ⟨_, _, _, _, same⟩ := service.apply_eq_with event
  rw [same]

@[simp] theorem environment_apply (service : Service ω σ) (event : Event) :
    (service.apply event).environment = service.environment := by
  obtain ⟨_, _, _, _, same⟩ := service.apply_eq_with event
  rw [same]

@[simp] theorem fresh_apply (service : Service ω σ) (event : Event) :
    (service.apply event).fresh = service.fresh := by
  obtain ⟨_, _, _, _, same⟩ := service.apply_eq_with event
  rw [same]

theorem session?_apply_of_ne {event : Event} {number other : Nat}
    (address : event.number? = some number) (ne : number ≠ other) (service : Service ω σ) :
    (service.apply event).session? other = service.session? other := by
  rcases apply_of_number? address service with same | ⟨outside, session, same⟩
  · rw [same]
  · rw [same, session?_put_of_ne ne]
    rfl

theorem clock_apply {event : Event} {number : Nat} (address : event.number? = some number)
    (service : Service ω σ) :
    (service.apply event).now = service.now ∧ (service.apply event).signal = service.signal := by
  rcases apply_of_number? address service with same | ⟨outside, session, same⟩
  · rw [same]
    exact ⟨rfl, rfl⟩
  · rw [same]
    exact ⟨rfl, rfl⟩

theorem run_cons (service : Service ω σ) (event : Event) (rest : List Event) :
    service.run (event :: rest) = (service.apply event).run rest := rfl

theorem run_append (service : Service ω σ) (first second : List Event) :
    service.run (first ++ second) = (service.run first).run second := by
  rw [run, List.foldl_append]
  rfl

theorem run_eq_with (service : Service ω σ) (events : List Event) :
    ∃ outside now signal sessions,
      service.run events = { service with outside, now, signal, sessions } := by
  induction events generalizing service with
  | nil => exact ⟨_, _, _, _, rfl⟩
  | cons event rest ih =>
    obtain ⟨_, _, _, _, first⟩ := service.apply_eq_with event
    obtain ⟨outside, now, signal, sessions, later⟩ := ih (service.apply event)
    refine ⟨outside, now, signal, sessions, ?_⟩
    rw [run_cons, later, first]

@[simp] theorem handler_run (service : Service ω σ) (events : List Event) :
    (service.run events).handler = service.handler := by
  obtain ⟨_, _, _, _, same⟩ := service.run_eq_with events
  rw [same]

@[simp] theorem environment_run (service : Service ω σ) (events : List Event) :
    (service.run events).environment = service.environment := by
  obtain ⟨_, _, _, _, same⟩ := service.run_eq_with events
  rw [same]

@[simp] theorem limit_run (service : Service ω σ) (events : List Event) :
    (service.run events).limit = service.limit := by
  obtain ⟨_, _, _, _, same⟩ := service.run_eq_with events
  rw [same]

@[simp] theorem fresh_run (service : Service ω σ) (events : List Event) :
    (service.run events).fresh = service.fresh := by
  obtain ⟨_, _, _, _, same⟩ := service.run_eq_with events
  rw [same]

theorem session?_stepped {service : Service ω σ} {number : Nat} {session : Session σ}
    (found : service.session? number = some session) :
    (service.apply (.stepped number)).session? number =
      some ((session.step (service.handler number) service.environment service.now service.signal
        service.outside).elim session (·.2)) := by
  simp only [apply, step, found]
  cases session.step (service.handler number) service.environment service.now service.signal
      service.outside with
  | none => rw [Option.elim_none, found]
  | some next => rw [Option.elim_some, session?_put_self]

end LdapService.Service

import LdapService.Proofs.Session.Alike
import LdapService.Proofs.Session.ServiceUpholds

/-!
Two services side by side, of which one session is looked at. An event that both have
keeps them side by side, and so does any number of events for other connections; what
is left for each use is the step of the session itself.
-/

namespace LdapService.Service

variable {ω ω' σ : Type} {number : Nat} {first : Service ω σ} {second : Service ω' σ}
  {related : Program streaming σ (Except Failure Reply) →
    Program streaming σ (Except Failure Reply) → Prop}

theorem clock_run {events : List Event} (addressed : ∀ event ∈ events, event.number? ≠ none)
    (service : Service ω σ) :
    (service.run events).now = service.now ∧ (service.run events).signal = service.signal := by
  induction events generalizing service with
  | nil => exact ⟨rfl, rfl⟩
  | cons event rest ih =>
    obtain ⟨number, address⟩ := Option.ne_none_iff_exists'.1 (addressed event List.mem_cons_self)
    obtain ⟨now, signal⟩ := clock_apply address service
    obtain ⟨now', signal'⟩ := ih (fun other mem => addressed other (List.mem_cons_of_mem _ mem))
      (service.apply event)
    exact ⟨now'.trans now, signal'.trans signal⟩

theorem session?_run_of_ne {events : List Event}
    (others : ∀ event ∈ events, ∃ other, event.number? = some other ∧ other ≠ number)
    (service : Service ω σ) : (service.run events).session? number = service.session? number := by
  induction events generalizing service with
  | nil => rfl
  | cons event rest ih =>
    obtain ⟨other, address, ne⟩ := others event List.mem_cons_self
    rw [run_cons, ih fun event mem => others event (List.mem_cons_of_mem _ mem)]
    exact session?_apply_of_ne address ne service

/-- What the client of a connection could notice is the same but for how the handler
goes on. -/
structure Beside (related : Program streaming σ (Except Failure Reply) →
    Program streaming σ (Except Failure Reply) → Prop) (number : Nat) (first : Service ω σ)
    (second : Service ω' σ) : Prop where
  limit : second.limit = first.limit
  fresh : second.fresh = first.fresh
  now : second.now = first.now
  signal : second.signal = first.signal
  session : Option.Rel (Session.AlikeUpTo related) (first.session? number)
    (second.session? number)

theorem Beside.looksLike (h : Beside related number first second) :
    Option.Rel Session.LooksLike (first.session? number) (second.session? number) := by
  have session := h.session
  generalize first.session? number = one, second.session? number = other at session
  cases session with
  | none => exact .none
  | some alike => exact .some alike.looksLike

theorem Beside.runs (h : Beside related number first second) (events events' : List Event)
    (addressed : ∀ event ∈ events ++ events', event.number? ≠ none)
    (session : Option.Rel (Session.AlikeUpTo related) ((first.run events).session? number)
      ((second.run events').session? number)) :
    Beside related number (first.run events) (second.run events') := by
  obtain ⟨now, signal⟩ :=
    clock_run (fun event mem => addressed event (List.mem_append_left _ mem)) first
  obtain ⟨now', signal'⟩ :=
    clock_run (fun event mem => addressed event (List.mem_append_right _ mem)) second
  refine ⟨?_, ?_, ?_, ?_, session⟩
  · rw [limit_run, limit_run, h.limit]
  · rw [fresh_run, fresh_run, h.fresh]
  · rw [now, now', h.now]
  · rw [signal, signal', h.signal]

theorem Beside.others (h : Beside related number first second) (events events' : List Event)
    (others : ∀ event ∈ events ++ events', ∃ other, event.number? = some other ∧ other ≠ number) :
    Beside related number (first.run events) (second.run events') := by
  refine h.runs events events' ?_ ?_
  · intro event mem
    obtain ⟨other, address, -⟩ := others event mem
    rw [address]
    exact Option.some_ne_none other
  · rw [session?_run_of_ne fun event mem => others event (List.mem_append_left _ mem),
      session?_run_of_ne fun event mem => others event (List.mem_append_right _ mem)]
    exact h.session

theorem Beside.alter (h : Beside related number first second)
    {change : Session σ → Session σ}
    (keeps : ∀ one other, Session.AlikeUpTo related one other →
      first.session? number = some one → second.session? number = some other →
        Session.AlikeUpTo related (change one) (change other)) :
    Option.Rel (Session.AlikeUpTo related) ((first.alter number change).session? number)
      ((second.alter number change).session? number) := by
  have session := h.session
  rw [session?_alter_self, session?_alter_self]
  generalize hereIs : first.session? number = one, thereIs : second.session? number = other
    at session keeps
  cases session with
  | none => exact .none
  | some alike => exact .some (keeps _ _ alike rfl rfl)

theorem Beside.connect (h : Beside related number first second) :
    Option.Rel (Session.AlikeUpTo related) ((first.connect number).session? number)
      ((second.connect number).session? number) := by
  have session := h.session
  unfold Service.connect
  generalize hereIs : first.session? number = one, thereIs : second.session? number = other
    at session
  cases session with
  | none =>
    simp only [session?_put_self, h.limit, h.fresh]
    exact .some (.quiet fun ⟨_, busy⟩ => nomatch busy)
  | some alike =>
    simp only [hereIs, thereIs]
    exact .some alike

theorem Beside.all (h : Beside related number first second) {event : Event}
    (all : event.number? = none) : Beside related number (first.apply event) (second.apply event) := by
  cases event with
  | signalled signal =>
    change Beside related number (first.heed signal) (second.heed signal)
    unfold heed
    rw [h.signal]
    split
    · exact ⟨h.limit, h.fresh, h.now, rfl, h.session⟩
    · exact h
  | elapsed milliseconds =>
    exact ⟨h.limit, h.fresh, congrArg (· + milliseconds) h.now, h.signal, h.session⟩
  | _ => cases all

/-- The same event on both sides. A step of the session and its being woken are for
the uses to look at. -/
theorem Beside.same (h : Beside related number first second) {event : Event}
    (steps : event = .stepped number → Option.Rel (Session.AlikeUpTo related)
      ((first.apply event).session? number) ((second.apply event).session? number))
    (wakes : ∀ one other, Session.AlikeUpTo related one other →
      first.session? number = some one → second.session? number = some other →
        Session.AlikeUpTo related one.wake other.wake) :
    Beside related number (first.apply event) (second.apply event) := by
  cases address : event.number? with
  | none => exact h.all address
  | some other =>
    by_cases own : other = number
    · subst own
      refine h.runs [event] [event] (by simp [address]) ?_
      change Option.Rel _ ((first.apply event).session? other) ((second.apply event).session? other)
      cases event with
      | connected => cases address; exact h.connect
      | received => cases address; exact h.alter fun _ _ alike _ _ => alike.receive _
      | hungUp => cases address; exact h.alter fun _ _ alike _ _ => alike.hangUp
      | readFailed => cases address; exact h.alter fun _ _ alike _ _ => alike.readFailed _
      | transportFails =>
        cases address
        exact h.alter fun _ _ alike _ _ => alike.failTransport _ _
      | stepped => cases address; exact steps rfl
      | woken => cases address; exact h.alter wakes
      | dropped => cases address; exact h.alter fun _ _ alike _ _ => alike.drop
      | signalled => cases address
      | elapsed => cases address
    · refine h.others [event] [event] ?_
      simp [address, own]

end LdapService.Service

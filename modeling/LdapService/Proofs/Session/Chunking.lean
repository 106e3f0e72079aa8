import LdapService.Directory.Shared
import LdapService.Proofs.Session.Course

/-!
How the octets of a client are split, and when they come, makes no difference. Every
calm run goes along the course of its session; so of two runs one is behind the other,
and when neither can go further they are at the same place.
-/

namespace LdapService

namespace Service

open Relation (ReflTransGen)

variable {ω ν σ : Type}

/-- Nothing that other connections do in a run changes the view. -/
def IsUnseen (service : Service ω σ) (view : ω → ν) (number : Nat) (events : List Event) : Prop :=
  ∀ before event after, events = before ++ event :: after → event.number? ≠ some number →
    view ((service.run before).apply event).outside = view (service.run before).outside

/-- A calm and unseen run to a session that has heard part of these octets; in it some
of the sendings have been as late as these, and the handler was woken at most so often. -/
structure Brings (service : Service ω σ) (view : ω → ν) (number : Nat) (stream : Octets)
    (lates : List Bool) (wakes : Nat) (events : List Event) (session : Session σ) : Prop where
  calm : ∀ event ∈ events, event.IsCalm number
  unseen : service.IsUnseen view number events
  found : (service.run events).session? number = some session
  heard : service.heard number events <+: stream
  lates : (service.turns number events).filterMap Turn.late? <+: lates
  wakes : service.wakes number events ≤ wakes

/-- The session can go no further: it is idle and has heard all, its handler waits and
has been woken so often, or it has ended. -/
def IsSpent (service : Service ω σ) (number : Nat) (stream : Octets) (wakes : Nat)
    (events : List Event) (session : Session σ) : Prop :=
  session.phase = .idle ∧ service.heard number events = stream ∨
    session.isWaiting = true ∧ service.wakes number events = wakes ∨
    ∃ result, session.phase = .ended result

variable {service : Service ω σ} {view : ω → ν} {seen : Environment ν} {number : Nat}
  {stream : Octets} {lates : List Bool} {wakes : Nat}

theorem isUnseen_of_self {events : List Event}
    (self : ∀ event ∈ events, event.number? = some number) :
    service.IsUnseen view number events := by
  rintro before event after rfl other
  exact absurd (self event (by simp)) other

theorem IsUnseen.append {events own : List Event} (h : service.IsUnseen view number events)
    (self : ∀ event ∈ own, event.number? = some number) :
    service.IsUnseen view number (events ++ own) := by
  intro before event after same other
  rcases List.append_eq_append_iff.1 same with ⟨between, -, own'⟩ | ⟨between, rfl, own'⟩
  · rw [own'] at self
    exact absurd (self event (by simp)) other
  · cases between with
    | nil =>
      rw [List.nil_append] at own'
      rw [← own'] at self
      exact absurd (self event List.mem_cons_self) other
    | cons first rest =>
      cases own'
      exact h before event rest rfl other

theorem Brings.leads (sees : service.environment.SeenAs view seen)
    (opened : service.session? number = some (.start service.limit service.fresh))
    (quiet : service.signal = .quiet) {events : List Event} {session : Session σ}
    (h : service.Brings view number stream lates wakes events session) :
    ∃ rest later more, service.heard number events ++ rest = stream ∧
      service.wakes number events + more = wakes ∧ session.IsAttentive ∧
      ReflTransGen (Course.Leads (service.handler number) seen)
        (.ahead stream lates wakes (view service.outside) (.start service.limit service.fresh))
        (.ahead rest later more (view (service.run events).outside) session) := by
  have start : Session.OnCourse (service.handler number) seen view
      (service.outside, .start service.limit service.fresh) [] [] 0
      (service.outside, .start service.limit service.fresh) := by
    refine ⟨⟨?_, ?_⟩, fun rest lates wakes => ?_⟩
    · simp [Session.start]
    · simp [Session.start]
    · rw [Nat.zero_add]
      exact .refl
  obtain ⟨-, session', found', attentive, leads⟩ :=
    run_of_moves (fun before after => view after = view before) (fun _ => rfl)
      (Session.OnCourse (service.handler number) seen view
        (service.outside, .start service.limit service.fresh))
      (fun held moved => held.move sees moved) h.calm h.unseen quiet opened start
  cases h.found.symm.trans found'
  obtain ⟨rest, whole⟩ := h.heard
  obtain ⟨later, all⟩ := h.lates
  obtain ⟨more, sum⟩ := Nat.exists_eq_add_of_le h.wakes
  have led := leads rest later more
  rw [whole, all, ← sum] at led
  exact ⟨rest, later, more, whole, sum.symm, attentive, led⟩

theorem IsSpent.not_ready {events : List Event} {session : Session σ}
    (spent : service.IsSpent number stream wakes events session) : session.phase ≠ .ready := by
  rcases spent with ⟨idle, -⟩ | ⟨waits, -⟩ | ⟨result, ended⟩
  · simp [idle]
  · intro ready
    simp [Session.isWaiting, ready] at waits
  · simp [ended]

theorem IsSpent.stuck {events : List Event} {session : Session σ} {rest : Octets} {more : Nat}
    (spent : service.IsSpent number stream wakes events session)
    (attentive : session.IsAttentive) (whole : service.heard number events ++ rest = stream)
    (sum : service.wakes number events + more = wakes) (later : List Bool) (outside : ν)
    (next : Course ν σ) :
    ¬Course.Leads (service.handler number) seen (.ahead rest later more outside session) next := by
  refine Session.course_stuck attentive ?_ next
  rcases spent with ⟨idle, all⟩ | ⟨waits, all⟩ | ended
  · rw [← all] at whole
    exact .inl ⟨idle, List.append_right_eq_self.1 whole⟩
  · exact .inr (.inl ⟨waits, by omega⟩)
  · exact .inr (.inr ended)

section TwoRuns

variable (sees : service.environment.SeenAs view seen)
  (opened : service.session? number = some (.start service.limit service.fresh))
  (quiet : service.signal = .quiet) {first second : List Event} {here there : Session σ}
  (brings : service.Brings view number stream lates wakes first here)
  (brings' : service.Brings view number stream lates wakes second there)

include sees opened quiet brings brings'

/-- Of two runs one has written no more than the other, and that in the same order. -/
theorem Brings.written_comparable :
    here.written <+: there.written ∨ there.written <+: here.written := by
  obtain ⟨rest, later, more, -, -, -, leads⟩ := brings.leads sees opened quiet
  obtain ⟨rest', later', more', -, -, -, leads'⟩ := brings'.leads sees opened quiet
  rcases ReflTransGen.total_of_right_unique Course.leads_rightUnique leads leads' with
    further | further
  · have grows := Course.written_of_leads further
    rw [Course.ahead_written, Course.ahead_written] at grows
    exact .inl grows
  · have grows := Course.written_of_leads further
    rw [Course.ahead_written, Course.ahead_written] at grows
    exact .inr grows

theorem Brings.same_of_spent (spent : service.IsSpent number stream wakes first here)
    (spent' : service.IsSpent number stream wakes second there) :
    here.connection = there.connection ∧ (here.pace false).phase = (there.pace false).phase ∧
      view (service.run first).outside = view (service.run second).outside := by
  obtain ⟨rest, later, more, whole, sum, attentive, leads⟩ := brings.leads sees opened quiet
  obtain ⟨rest', later', more', whole', sum', attentive', leads'⟩ :=
    brings'.leads sees opened quiet
  have same : Course.ahead rest later more (view (service.run first).outside) here =
      .ahead rest' later' more' (view (service.run second).outside) there := by
    rcases ReflTransGen.total_of_right_unique Course.leads_rightUnique leads leads' with
      further | further
    · exact (Course.eq_of_stuck (spent.stuck attentive whole sum later _) further).symm
    · exact Course.eq_of_stuck (spent'.stuck attentive' whole' sum' later' _) further
  simp only [Course.ahead, Course.mk.injEq] at same
  obtain ⟨outside, sessions, -⟩ := same
  have connection := congrArg Session.connection sessions
  rw [Session.pace_connection, Session.feed_connection, Session.pace_connection,
    Session.feed_connection] at connection
  rw [Session.feed_pace, Session.feed_pace] at sessions
  refine ⟨connection, Session.phase_of_feed_eq sessions ?_ ?_, outside⟩
  · rw [ne_eq, Session.pace_phase_ready]
    exact spent.not_ready
  · rw [ne_eq, Session.pace_phase_ready]
    exact spent'.not_ready

end TwoRuns

theorem exists_spent (opened : service.session? number = some (.start service.limit service.fresh))
    (quiet : service.signal = .quiet) {events : List Event}
    (calm : ∀ event ∈ events, event.IsCalm number)
    (unseen : service.IsUnseen view number events)
    (within : service.heard number events <+: stream) :
    ∃ more lates wakes session,
      service.Brings view number stream lates wakes (events ++ more) session ∧
        service.IsSpent number stream wakes (events ++ more) session := by
  obtain ⟨more, own, heard, session, found, ends⟩ := exists_delivers opened quiet calm within
  have self : ∀ event ∈ more, event.IsCalm number ∧ event.number? = some number := by
    intro event mem
    rcases own event mem with (rfl | rfl) | ⟨octets, rfl⟩
    · exact ⟨trivial, rfl⟩
    · exact ⟨trivial, rfl⟩
    · exact ⟨trivial, rfl⟩
  have brings : service.Brings view number stream _ _ (events ++ more) session :=
    { calm := List.forall_mem_append.2 ⟨calm, fun event mem => (self event mem).1⟩
      unseen := unseen.append fun event mem => (self event mem).2
      found := found
      heard := heard
      lates := List.prefix_rfl
      wakes := Nat.le_refl _ }
  refine ⟨more, _, _, session, brings, ?_⟩
  rcases ends with idle | ended
  · exact .inl idle
  · exact .inr (.inr ended)

/-- How the octets of a client are split, and when they come, makes no difference. Every
run comes to where its session can go no further; of two runs that bring it the same
octets one has written no more than the other, and that in the same order; and when the
session can go no further in either, it has written and remembers the same in both, and
waits or has ended in the same way. -/
theorem independent_of_chunks (sees : service.environment.SeenAs view seen)
    (opened : service.session? number = some (.start service.limit service.fresh))
    (quiet : service.signal = .quiet) (stream : Octets) :
    (∀ events : List Event, (∀ event ∈ events, event.IsCalm number) →
      service.IsUnseen view number events → service.heard number events <+: stream →
      ∃ more lates wakes session,
        service.Brings view number stream lates wakes (events ++ more) session ∧
          service.IsSpent number stream wakes (events ++ more) session) ∧
    ∀ (lates : List Bool) (wakes : Nat) (first second : List Event) (here there : Session σ),
      service.Brings view number stream lates wakes first here →
      service.Brings view number stream lates wakes second there →
      (here.written <+: there.written ∨ there.written <+: here.written) ∧
        (service.IsSpent number stream wakes first here →
          service.IsSpent number stream wakes second there →
          here.connection = there.connection ∧
            (here.pace false).phase = (there.pace false).phase ∧
            view (service.run first).outside = view (service.run second).outside) := by
  constructor
  · exact fun events calm unseen within => exists_spent opened quiet calm unseen within
  · intro lates wakes first second here there brings brings'
    exact ⟨brings.written_comparable sees opened quiet brings',
      brings.same_of_spent sees opened quiet brings'⟩

/-- A search, whose handler sends one entry, waits and crashes, with an octet behind it
that begins no message: all in one, and in parts with the last of them coming while the
handler waits. -/
theorem independent_of_chunks_split :
    let search : Octets := [0x30, 0x1f, 0x02, 0x01, 0x01, 0x63, 0x1a, 0x04, 0x03, 0x61, 0x3d, 0x31,
      0x0a, 0x01, 0x02, 0x0a, 0x01, 0x00, 0x02, 0x01, 0x00, 0x02, 0x01, 0x00, 0x01, 0x01, 0x00,
      0x87, 0x02, 0x63, 0x6e, 0x30, 0x00]
    let handler : Handler Unit := {
      search := fun request => do
        Streaming.send { dn := request.base }
        Operation.wait
        Operation.crash }
    let service : Service Shared Unit := {
      handler, environment := Shared.environment, limit := 100, fresh := ()
      outside := { directory := ⟨[], List.forall_mem_nil _, List.nodup_nil⟩ }
      sessions := [(1, .start 100 ())] }
    let first : List Event := [.stepped 1, .received 1 (search ++ [0xff]), .stepped 1, .stepped 1,
      .woken 1, .stepped 1, .stepped 1, .stepped 1]
    let second : List Event := [.stepped 1, .received 1 (search.take 5), .stepped 1,
      .received 1 (search.drop 5), .stepped 1, .stepped 1, .received 1 [0xff], .woken 1,
      .stepped 1, .stepped 1, .stepped 1]
    ∃ here there, (service.run first).session? 1 = some here ∧
      (service.run second).session? 1 = some there ∧ here.written.length = 3 ∧
      here.connection = there.connection := by
  intro search handler service first second
  have sees : service.environment.SeenAs id service.environment := fun _ _ => ⟨rfl, rfl⟩
  have brings {events : List Event}
      (self : ∀ event ∈ events, event.IsCalm 1 ∧ event.number? = some 1)
      (hears : service.heard 1 events = search ++ [0xff])
      (lates : (service.turns 1 events).filterMap Turn.late? = [false])
      (wakes : service.wakes 1 events = 1)
      (ends : ((service.run events).session? 1).map (fun session => (session.written.length,
        match session.phase with
        | .ended _ => true
        | _ => false)) = some (3, true)) :
      ∃ session, service.Brings id 1 (search ++ [0xff]) [false] 1 events session ∧
        service.IsSpent 1 (search ++ [0xff]) 1 events session ∧ session.written.length = 3 := by
    obtain ⟨session, found, ends⟩ := Option.map_eq_some_iff.1 ends
    obtain ⟨written, ended⟩ := Prod.mk.inj ends
    refine ⟨session, ?_, ?_, written⟩
    · exact {
        calm := fun event mem => (self event mem).1
        unseen := isUnseen_of_self fun event mem => (self event mem).2
        found := found
        heard := hears ▸ List.prefix_rfl
        lates := lates ▸ List.prefix_rfl
        wakes := Nat.le_of_eq wakes }
    · split at ended
      · next result phase => exact .inr (.inr ⟨result, phase⟩)
      · cases ended
  obtain ⟨here, one, spent, written⟩ := @brings first (by simp [first, Event.IsCalm, Event.number?])
    (by decide +kernel) (by decide +kernel) (by decide +kernel) (by decide +kernel)
  obtain ⟨there, other, spent', -⟩ := @brings second (by simp [second, Event.IsCalm, Event.number?])
    (by decide +kernel) (by decide +kernel) (by decide +kernel) (by decide +kernel)
  have same := ((independent_of_chunks sees rfl rfl (search ++ [0xff])).2 [false] 1 first second
    here there one other).2 spent spent'
  exact ⟨here, there, one.found, other.found, written, same.1⟩

end Service

end LdapService

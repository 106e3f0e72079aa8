import Mathlib.Logic.Relation
import LdapService.Proofs.Session.Progress
import LdapService.Proofs.Session.Written

/-!
What a session can do is one course, given all octets that it will hear, which of its
sendings come too late and how often its handler is woken. Every move of a session is
a way along its course, whenever it happens; only the view of what connections share
must stay as it is while others move.
-/

namespace LdapService

namespace Session

variable {ω σ : Type}

def sendings (session : Session σ) : Nat :=
  match session.phase with
  | .busy task =>
      match task.program with
      | .ask (.send _) _ => 1
      | _ => 0
  | _ => 0

@[simp] theorem pace_sendings (late : Bool) (session : Session σ) :
    (session.pace late).sendings = session.sendings := by
  unfold pace
  split
  · next busy => simp only [sendings, busy, Task.pace]
  · rfl

@[simp] theorem feed_sendings (rest : Octets) (session : Session σ) :
    (session.feed rest).sendings = session.sendings := by
  by_cases idle : session.phase = .idle
  · simp only [feed_of_idle idle, sendings, idle]
  · rw [feed_of_not_idle idle]
    rfl

theorem turn_cases (now : Nat) (session : Session σ) :
    (∃ entry outcome, session.turn? now = some (.sent entry outcome) ∧ session.sendings = 1) ∨
      (∀ entry outcome, session.turn? now ≠ some (.sent entry outcome)) ∧
        (session.turn? now).toList.filterMap Turn.late? = [] ∧ session.sendings = 0 := by
  cases phase : session.phase with
  | busy task =>
    have turn : session.turn? now = task.turn? now session.connection.writer := by
      simp only [turn?, phase]
    cases program : task.program with
    | done | crash | wait =>
      refine .inr ⟨?_, ?_, ?_⟩ <;> simp [turn, Task.turn?, program, sendings, phase, Turn.late?]
    | ask question next =>
      cases question with
      | send entry =>
        have sent : session.turn? now = some (.sent entry
            (task.stream.send Writer.sink now entry session.connection.writer).1) := by
          rw [turn, Task.turn?, program]
        exact .inl ⟨entry, _, sent, by simp only [sendings, phase, program]⟩
      | backend | isClosed =>
        refine .inr ⟨?_, ?_, ?_⟩ <;> simp [turn, Task.turn?, program, sendings, phase]
  | _ => refine .inr ⟨?_, ?_, ?_⟩ <;> simp [turn?, sendings, phase]

end Session

structure Course (ω σ : Type) where
  outside : ω
  session : Session σ
  /-- For every sending to come, whether it comes too late. -/
  lates : List Bool
  wakes : Nat

namespace Course

open Relation (ReflTransGen)

variable {ω σ : Type} {handler : Handler σ} {environment : Environment ω}

/-- One step along the course. The clock stands still, and a sending takes its lateness
from the list; other steps do not look at it. -/
inductive Leads (handler : Handler σ) (environment : Environment ω) :
    Course ω σ → Course ω σ → Prop
  | wakes (outside : ω) (lates : List Bool) (wakes : Nat) {session : Session σ}
      (waits : session.isWaiting = true) :
      Leads handler environment ⟨outside, session, lates, wakes + 1⟩
        ⟨outside, session.wake, lates, wakes⟩
  | steps {outside outside' : ω} {session session' : Session σ} {lates : List Bool} (wakes : Nat)
      (steps : (session.pace (lates.headD false)).step handler environment 0 .quiet outside =
        some (outside', session'))
      (awake : session'.phase ≠ .idle) :
      Leads handler environment ⟨outside, session, lates, wakes⟩
        ⟨outside', session'.pace false, lates.drop session.sendings, wakes⟩

theorem leads_rightUnique : Relator.RightUnique (Leads handler environment) := by
  intro course next next' first second
  cases first with
  | wakes outside lates wakes waits =>
    cases second with
    | wakes => rfl
    | steps _ steps =>
      rw [Session.step_of_waiting (by simpa using waits)] at steps
      cases steps
  | steps wakes steps =>
    cases second with
    | wakes _ _ _ waits =>
      rw [Session.step_of_waiting (by simpa using waits)] at steps
      cases steps
    | steps _ steps' =>
      rw [steps] at steps'
      cases steps'
      rfl

theorem Leads.grows {course next : Course ω σ} (leads : Leads handler environment course next) :
    course.session.written <+: next.session.written := by
  cases leads with
  | wakes =>
    rw [Session.wake_written]
  | steps wakes steps =>
    have grows := Session.step_grows steps
    simp only [Session.written, Session.pace_connection] at grows ⊢
    exact grows

theorem written_of_leads {course next : Course ω σ}
    (leads : ReflTransGen (Leads handler environment) course next) :
    course.session.written <+: next.session.written := by
  induction leads with
  | refl => exact List.prefix_rfl
  | tail _ last ih => exact ih.trans last.grows

theorem eq_of_stuck {course next : Course ω σ} (stuck : ∀ other, ¬Leads handler environment course other)
    (leads : ReflTransGen (Leads handler environment) course next) : next = course := by
  cases leads.cases_head with
  | inl same => exact same.symm
  | inr goes =>
    obtain ⟨other, first, -⟩ := goes
    exact absurd first (stuck other)

def ahead (rest : Octets) (lates : List Bool) (wakes : Nat) (outside : ω) (session : Session σ) :
    Course ω σ :=
  ⟨outside, (session.feed rest).pace false, lates, wakes⟩

theorem ahead_written (rest : Octets) (lates : List Bool) (wakes : Nat) (outside : ω)
    (session : Session σ) :
    (ahead rest lates wakes outside session).session.written = session.written := by
  simp only [ahead, Session.written, Session.pace_connection, Session.feed_connection]

theorem leads_of_step {now : Nat} {outside outside' : ω} {session session' : Session σ}
    {rest : Octets} (steps : (session.feed rest).step handler environment now .quiet outside =
      some (outside', session'.feed rest)) (lates : List Bool) (wakes : Nat) :
    Leads handler environment
      (ahead rest ((session.turn? now).toList.filterMap Turn.late? ++ lates) wakes outside session)
      (ahead rest lates wakes outside' session') := by
  have turn := Session.turn?_feed rest now session
  -- whatever stands at the head of the list, if it agrees with the sending of this step
  have goes {late : Bool} (agrees : ∀ entry outcome,
      (session.feed rest).turn? now = some (.sent entry outcome) → isLate outcome = late)
      {all : List Bool} (head : all.headD false = late)
      (after : all.drop session.sendings = lates) :
      Leads handler environment (ahead rest all wakes outside session)
        (ahead rest lates wakes outside' session') := by
    obtain ⟨paced, same, equal⟩ := Session.step_pace agrees steps
    have awake : paced.phase ≠ .idle := by
      intro idle
      rw [← Session.pace_phase_idle false, equal, Session.pace_phase_idle] at idle
      exact Session.feed_awake _ _ idle
    have led : Leads handler environment
        ⟨outside, (session.feed rest).pace false, all, wakes⟩
        ⟨outside', paced.pace false, all.drop ((session.feed rest).pace false).sendings, wakes⟩ := by
      refine .steps wakes ?_ awake
      rw [Session.pace_pace, head]
      exact same
    rw [equal, Session.pace_sendings, Session.feed_sendings, after] at led
    exact led
  rcases session.turn_cases now with ⟨entry, outcome, sent, one⟩ | ⟨other, nothing, zero⟩
  · rw [sent]
    refine @goes (isLate outcome) ?_ _ rfl (by rw [one]; rfl)
    intro entry' outcome' sent'
    rw [turn, sent] at sent'
    cases sent'
    rfl
  · rw [nothing]
    refine @goes (lates.headD false) ?_ _ rfl (by rw [zero]; rfl)
    intro entry' outcome' sent'
    rw [turn] at sent'
    exact absurd sent' (other _ _)

end Course

namespace Session

open Relation (ReflTransGen)

variable {ω ν σ : Type} {handler : Handler σ} {environment : Environment ω} {view : ω → ν}
  {seen : Environment ν}

theorem Move.leads (sees : environment.SeenAs view seen) {octets : Octets} {turn : Option Turn}
    {woken : Nat} {state next : ω × Session σ}
    (moved : Move handler environment (fun before after => view after = view before) octets turn
      woken state next) (rest : Octets) (lates : List Bool) (wakes : Nat) :
    ReflTransGen (Course.Leads handler seen)
      (.ahead (octets ++ rest) (turn.toList.filterMap Turn.late? ++ lates) (woken + wakes)
        (view state.1) state.2)
      (.ahead rest lates wakes (view next.1) next.2) := by
  cases moved with
  | still session unseen =>
    rw [Nat.zero_add, unseen]
    exact .refl
  | @hear octets outside session some reads =>
    -- on the course these octets are there already
    rw [Nat.zero_add, receive_eq_feed some reads, Course.ahead, Course.ahead, feed_feed]
    exact .refl
  | @step now outside outside' session session' steps =>
    rw [Nat.zero_add, List.nil_append]
    rcases step_feed steps rest with ⟨ready, rfl, rfl, -⟩ | ⟨-, fed⟩
    · -- the course never finds that more is needed
      have turn : session.turn? now = none := by simp only [turn?, ready]
      have same : ({ session with phase := .idle } : Session σ).feed rest = session.feed rest := by
        simp only [feed, awaken, ready]
      rw [turn, Course.ahead, Course.ahead, same]
      exact .refl
    · exact .single (Course.leads_of_step (step_through sees fed) lates wakes)
  | @wake outside session waits =>
    have waits' : ((session.feed rest).pace false).isWaiting = true := by simpa using waits
    have led : Course.Leads handler seen _ _ := .wakes (view outside) lates wakes waits'
    rw [pace_wake, feed_wake] at led
    rw [Nat.add_comm]
    exact .single led

/-- A session at rest with nothing to come is where its course ends. -/
theorem course_stuck {rest : Octets} {lates : List Bool} {wakes : Nat} {outside : ω}
    {session : Session σ} (h : session.IsAttentive)
    (spent : session.phase = .idle ∧ rest = [] ∨ session.isWaiting = true ∧ wakes = 0 ∨
      ∃ result, session.phase = .ended result) (next : Course ω σ) :
    ¬Course.Leads handler environment (.ahead rest lates wakes outside session) next := by
  intro leads
  rcases spent with ⟨idle, rfl⟩ | ⟨waits, rfl⟩ | ⟨result, ended⟩
  · have needs := h.needs idle
    have ready : session.feed [] = { session with phase := .ready } := by
      rw [feed_of_idle idle, List.append_nil]
    rw [Course.ahead, ready] at leads
    cases leads with
    | wakes _ _ _ waits => simp [isWaiting, pace] at waits
    | steps _ steps awake =>
      rw [pace_pace, pace, step_of_ready rfl,
        next_of_quiet handler 0 (by exact needs.present)] at steps
      simp only [needs.cut] at steps
      cases steps
      exact awake rfl
  · rw [Course.ahead] at leads
    cases leads with
    | steps _ steps =>
      rw [step_of_waiting (by simpa using waits)] at steps
      cases steps
  · have awake : session.phase ≠ .idle := by simp [ended]
    rw [Course.ahead, feed_of_not_idle awake] at leads
    cases leads with
    | wakes _ _ _ waits => simp [isWaiting, pace, ended] at waits
    | steps _ steps => simp [pace, ended, step] at steps

/-- On the way from a state to another, with what has been heard, done and woken. -/
def OnCourse (handler : Handler σ) (seen : Environment ν) (view : ω → ν) (start : ω × Session σ)
    (heard : Octets) (turns : List Turn) (woken : Nat) (state : ω × Session σ) : Prop :=
  state.2.IsAttentive ∧ ∀ rest lates wakes,
    ReflTransGen (Course.Leads handler seen)
      (.ahead (heard ++ rest) (turns.filterMap Turn.late? ++ lates) (woken + wakes)
        (view start.1) start.2)
      (.ahead rest lates wakes (view state.1) state.2)

theorem OnCourse.move (sees : environment.SeenAs view seen) {start state next : ω × Session σ}
    {heard octets : Octets} {turns : List Turn} {turn : Option Turn} {wakes woken : Nat}
    (h : OnCourse handler seen view start heard turns wakes state)
    (moved : Move handler environment (fun before after => view after = view before) octets turn
      woken state next) :
    OnCourse handler seen view start (heard ++ octets) (turns ++ turn.toList) (wakes + woken)
      next := by
  obtain ⟨attentive, leads⟩ := h
  refine ⟨moved.attentive attentive, fun rest lates more => ?_⟩
  rw [List.append_assoc, List.filterMap_append, List.append_assoc, Nat.add_assoc]
  exact (leads _ _ _).trans (moved.leads sees rest lates more)

end Session

end LdapService

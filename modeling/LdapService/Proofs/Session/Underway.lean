import Mathlib.Logic.Relation
import LdapService.Proofs.Session.Feed
import LdapService.Proofs.Session.Ledger

/-!
An operation under way, and what can come to pass before it ends: its handler is answered or
woken, time passes, an operation of the transport fails, the client leaves, and between any
two of these the shared store may be changed. What the handler of a search sends is a run of
its feed, so whatever holds of the runs of a feed holds of every handler.
-/

namespace LdapService

theorem Request.exists_of_search {request : Request} (search : request.kind = .search) :
    ∃ searched, request = .search searched := by
  cases request with
  | search searched => exact ⟨searched, rfl⟩
  | _ => cases search

structure Underway (σ : Type) where
  now : Nat
  task : Task σ
  connection : Connection σ

theorem Task.step_of_crash {ω σ : Type} {environment : Environment ω} {task : Task σ} {memory : σ}
    {reason : Option String} (h : task.program = .crash memory reason) (now : Nat) (outside : ω)
    (connection : Connection σ) :
    task.step environment now outside connection =
      (.finished (connection.conclude task memory (.error .serverError)).1, outside,
        (connection.conclude task memory (.error .serverError)).2) := by
  rw [step, h]

theorem Task.asks_of_running {ω σ : Type} {environment : Environment ω} {now : Nat}
    {task task' : Task σ} {outside outside' : ω} {connection connection' : Connection σ}
    (steps : task.step environment now outside connection =
      (.running task', outside', connection')) :
    ∃ question next, task.program = .ask question next ∧
      let told := Exchange.answer environment now question
        { outside, stream := task.stream, connection }
      task' = { task with stream := told.2.stream, program := next told.1 } ∧
        connection' = told.2.connection := by
  cases program : task.program with
  | done memory outcome =>
    rw [Task.step_of_done program] at steps
    cases steps
  | crash memory reason =>
    rw [Task.step_of_crash program] at steps
    cases steps
  | wait next =>
    simp only [Task.step, program] at steps
    cases steps
  | ask question next =>
    rw [Task.step_of_ask program] at steps
    cases steps
    exact ⟨question, next, rfl, rfl, rfl⟩

theorem Connection.begin_stream {σ : Type} {handler : Handler σ} {now : Nat} {message : Message}
    {request : SearchRequest} {start opened : Connection σ} {task : Task σ}
    (search : message.request = .search request)
    (begins : start.begin handler now message = (.inr task, opened)) :
    task.stream = .ofRequest message.id now request := by
  simp only [begin, search] at begins
  cases begins
  rfl

theorem Exchange.answer_feed {ω σ : Type} (environment : Environment ω) (now : Nat)
    (entry : Entry) (exchange : Exchange ω σ) :
    let call := (⟨now, exchange.stream, exchange.connection.writer⟩ : Feed).send entry
    let told := exchange.answer environment now (.send entry)
    told.2.stream = call.after.stream ∧ told.2.connection.writer = call.after.writer :=
  ⟨rfl, exchange.send_writer now entry⟩

namespace Underway

variable {ω σ : Type}

def feed (underway : Underway σ) : Feed :=
  ⟨underway.now, underway.task.stream, underway.connection.writer⟩

inductive Moves (environment : Environment ω) (before : Underway σ) : Underway σ → Prop
  | stepped {outside outside' : ω} {task : Task σ} {connection : Connection σ}
      (steps : before.task.step environment before.now outside before.connection =
        (.running task, outside', connection)) :
      Moves environment before { before with task, connection }
  | woken : Moves environment before { before with task := before.task.wake }
  | elapsed (milliseconds : Nat) :
      Moves environment before { before with now := before.now + milliseconds }
  | failed (operation : Transport.Operation) (error : IoError) :
      Moves environment before
        { before with
          connection.writer.transport :=
            before.connection.writer.transport.fail operation error }
  | clientLeft : Moves environment before { before with connection.writer.peerGone := true }

def Ends (environment : Environment ω) (last : Underway σ) (flow : Flow)
    (final : Connection σ) : Prop :=
  ∃ outside outside', last.task.step environment last.now outside last.connection =
    (.finished flow, outside', final)

/-- What can arise while a message is dispatched. -/
inductive Arises (handler : Handler σ) (environment : Environment ω) (message : Message)
    (start : Connection σ) : Underway σ → Prop
  | begun {now : Nat} {task : Task σ} {opened : Connection σ}
      (begins : start.begin handler now message = (.inr task, opened)) :
      Arises handler environment message start ⟨now, task, opened⟩
  | moved {before after : Underway σ} (arises : Arises handler environment message start before)
      (moves : before.Moves environment after) : Arises handler environment message start after

variable {handler : Handler σ} {environment : Environment ω} {message : Message}
  {start : Connection σ} {before after reached : Underway σ}

theorem Moves.serving (h : before.Moves environment after) {turns : List Turn}
    {frames : List Octets} (serving : before.task.Serving message turns frames) :
    ∃ turns frames, after.task.Serving message turns frames := by
  cases h with
  | stepped steps =>
    obtain ⟨question, next, program, rfl, -⟩ := Task.asks_of_running steps
    have restrained := serving.restrained
    rw [program] at restrained
    obtain ⟨allowed, goesOn⟩ := restrained
    cases question with
    | backend question => exact ⟨_, _, serving.resume (goesOn _)⟩
    | isClosed => exact ⟨_, _, serving.resume (goesOn _)⟩
    | send entry =>
      have search : message.request.kind = .search := by
        rcases allowed with search | ⟨inner, same⟩
        · exact search
        · cases same
      have same := before.feed.apply_stream (.sends entry)
      refine ⟨_, _, serving.sends search (fun other => ?_) (goesOn _) entry (.ok ())⟩
      exact (congrArg (SearchStream.frame · other) same).trans rfl
  | woken => exact ⟨_, _, serving.wake⟩
  | elapsed | failed | clientLeft => exact ⟨_, _, serving⟩

/-- A move of an operation is a run of its feed, in which no call is made but for a search. -/
theorem Moves.feed (h : before.Moves environment after) {turns : List Turn}
    {frames : List Octets} (serving : before.task.Serving message turns frames) :
    ∃ happenings, after.feed = before.feed.run happenings ∧
      (message.request.kind ≠ .search → before.feed.calls happenings = []) := by
  cases h with
  | @stepped outside _ _ _ steps =>
    obtain ⟨question, next, program, rfl, rfl⟩ := Task.asks_of_running steps
    have restrained := serving.restrained
    rw [program] at restrained
    cases question with
    | backend => exact ⟨[], rfl, fun _ => rfl⟩
    | isClosed => exact ⟨[], rfl, fun _ => rfl⟩
    | send entry =>
      obtain ⟨stream, writer⟩ := Exchange.answer_feed environment before.now entry
        { outside, stream := before.task.stream, connection := before.connection }
      refine ⟨[.sends entry], ?_, fun other => ?_⟩
      · rw [Underway.feed, stream, writer]
        rfl
      · rcases restrained.1 with search | ⟨inner, same⟩
        · exact absurd search other
        · cases same
  | woken =>
    refine ⟨[], ?_, fun _ => rfl⟩
    simp only [Underway.feed, Task.wake]
    split
    · rfl
    · rfl
  | elapsed milliseconds => exact ⟨[.elapses milliseconds], rfl, fun _ => rfl⟩
  | failed operation error => exact ⟨[.fails operation error], rfl, fun _ => rfl⟩
  | clientLeft => exact ⟨[.clientLeaves], rfl, fun _ => rfl⟩

theorem serving_of_path (path : Relation.ReflTransGen (Moves environment) before after)
    (serving : ∃ turns frames, before.task.Serving message turns frames) :
    ∃ turns frames, after.task.Serving message turns frames := by
  induction path with
  | refl => exact serving
  | tail _ moves ih =>
    obtain ⟨turns, frames, serving⟩ := ih
    exact moves.serving serving

theorem feed_of_path (path : Relation.ReflTransGen (Moves environment) before after)
    (serving : ∃ turns frames, before.task.Serving message turns frames) :
    ∃ happenings, after.feed = before.feed.run happenings ∧
      (message.request.kind ≠ .search → before.feed.calls happenings = []) := by
  induction path with
  | refl => exact ⟨[], rfl, fun _ => rfl⟩
  | tail earlier moves ih =>
    obtain ⟨happenings, reached, silent⟩ := ih
    obtain ⟨turns, frames, serving⟩ := serving_of_path earlier serving
    obtain ⟨later, goes, quiet⟩ := moves.feed serving
    refine ⟨happenings ++ later, ?_, fun other => ?_⟩
    · rw [goes, reached, Feed.run_append]
    · rw [Feed.calls_append, silent other, ← reached, quiet other, List.append_nil]

theorem serving_of_begins {now : Nat} {task : Task σ} {opened : Connection σ}
    (begins : start.begin handler now message = (.inr task, opened)) :
    ∃ turns frames, task.Serving message turns frames := by
  obtain ⟨-, answered⟩ := Connection.begin_kind begins
  obtain ⟨_, _, begun, serving⟩ := Connection.begin_of_answered handler now start answered
  rw [begins] at begun
  cases begun
  exact ⟨[], [], serving⟩

theorem feed_of_begins {now : Nat} {task : Task σ} {opened : Connection σ}
    (begins : start.begin handler now message = (.inr task, opened)) :
    feed ⟨now, task, opened⟩ = ⟨now, task.stream, start.writer⟩ ∧
      ∀ request, message.request = .search request →
        task.stream = .ofRequest message.id now request := by
  have writer := Connection.begin_writer handler now message start
  rw [begins] at writer
  refine ⟨?_, fun request search => Connection.begin_stream search begins⟩
  rw [feed, show opened.writer = start.writer from writer]

theorem Arises.exists_begins (h : reached.Arises handler environment message start) :
    ∃ now task opened, start.begin handler now message = (.inr task, opened) ∧
      Relation.ReflTransGen (Moves environment) ⟨now, task, opened⟩ reached := by
  induction h with
  | begun begins => exact ⟨_, _, _, begins, .refl⟩
  | moved _ moves ih =>
    obtain ⟨now, task, opened, begins, path⟩ := ih
    exact ⟨now, task, opened, begins, path.tail moves⟩

theorem Arises.serving (h : reached.Arises handler environment message start) :
    ∃ turns frames, reached.task.Serving message turns frames := by
  obtain ⟨now, task, opened, begins, path⟩ := h.exists_begins
  exact serving_of_path path (serving_of_begins begins)

/-- Up to any point of it, an operation is a run of a feed that starts with the writer as it
was, and for a search with the limits of the request. -/
theorem Arises.feed (h : reached.Arises handler environment message start) :
    ∃ begun stream happenings,
      reached.feed = (⟨begun, stream, start.writer⟩ : Feed).run happenings ∧
      (message.request.kind ≠ .search →
        (⟨begun, stream, start.writer⟩ : Feed).calls happenings = []) ∧
      ∀ request, message.request = .search request →
        stream = .ofRequest message.id begun request := by
  obtain ⟨now, task, opened, begins, path⟩ := h.exists_begins
  obtain ⟨first, limits⟩ := feed_of_begins begins
  obtain ⟨happenings, runs, silent⟩ := feed_of_path path (serving_of_begins begins)
  rw [first] at runs silent
  exact ⟨now, task.stream, happenings, runs, silent, limits⟩

theorem Arises.path (h : before.Arises handler environment message start)
    (path : Relation.ReflTransGen (Moves environment) before after) :
    after.Arises handler environment message start := by
  induction path with
  | refl => exact h
  | tail _ moves ih => exact .moved ih moves

end Underway

/-- A dispatch comes to this end: at once, or after a handler has done its work. -/
inductive Dispatches {ω σ : Type} (handler : Handler σ) (environment : Environment ω)
    (message : Message) (start : Connection σ) (flow : Flow) (final : Connection σ) : Prop
  | atOnce (now : Nat) (begins : start.begin handler now message = (.inl flow, final)) :
      Dispatches handler environment message start flow final
  | afterwards {last : Underway σ} (arises : last.Arises handler environment message start)
      (ends : last.Ends environment flow final) :
      Dispatches handler environment message start flow final

end LdapService

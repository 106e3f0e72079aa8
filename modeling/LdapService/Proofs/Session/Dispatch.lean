import Mathlib.Logic.Relation
import LdapService.Directory.Shared
import LdapService.Proofs.Directory.Passwords
import LdapService.Proofs.Session.Answering
import LdapService.Proofs.Session.Noting
import LdapService.Proofs.Session.Passage

/-!
Dispatch, whatever its transport does. A request that calls for an answer is answered by one
frame, after those of its entries and if it can still be written; the connection goes on
exactly if that frame has been written and flushed. The handler has one call for it, and
ends up where the same handler ends up that does not note its calls.
-/

namespace LdapService

open Ber

def Writer.Delivers (frame : Octets) (before after : Writer) : Prop :=
  after.transport.written = before.transport.written ++ [frame] ∧
    ¬before.transport.Struck after.transport

theorem Writer.not_delivers_of_same {frame : Octets} {before after : Writer}
    (same : after.transport.written = before.transport.written) : ¬before.Delivers frame after := by
  rintro ⟨wrote, -⟩
  rw [same] at wrote
  simpa using congrArg List.length wrote

namespace Connection

variable {σ : Type}

/-- One frame is tried on a writer: the connection goes on, idle, if it is delivered, and it
is closed if it is not. -/
structure Concludes (frame : Octets) (before : Writer) (flow : Flow) (after : Connection σ) :
    Prop where
  written : after.written = before.transport.written ∨
    after.written = before.transport.written ++ [frame]
  proceeds : flow = .proceed ∧ after.stage = .idle ↔ before.Delivers frame after.writer
  closes : flow = .close ∧ after.stage = .closed ↔ ¬before.Delivers frame after.writer

section

variable {frame : Octets} {before : Writer} {flow : Flow} {after : Connection σ}

theorem Concludes.of_delivers (proceed : flow = .proceed) (idle : after.stage = .idle)
    (delivers : before.Delivers frame after.writer) : after.Concludes frame before flow where
  written := .inr delivers.1
  proceeds := iff_of_true ⟨proceed, idle⟩ delivers
  closes := iff_of_false (fun closes => nomatch proceed.symm.trans closes.1)
    (not_not_intro delivers)

theorem Concludes.of_fails (close : flow = .close) (closed : after.stage = .closed)
    (written : after.written = before.transport.written ∨
      after.written = before.transport.written ++ [frame])
    (fails : ¬before.Delivers frame after.writer) : after.Concludes frame before flow where
  written := written
  proceeds := iff_of_false (fun proceeds => nomatch close.symm.trans proceeds.1) fails
  closes := iff_of_true ⟨close, closed⟩ fails

theorem Concludes.of_same (close : flow = .close) (closed : after.stage = .closed)
    (same : after.written = before.transport.written) : after.Concludes frame before flow :=
  .of_fails close closed (.inl same) (Writer.not_delivers_of_same same)

end

theorem finish_concludes {frame : Octets} (nonempty : frame ≠ []) (connection : Connection σ) :
    (connection.finish frame).2.Concludes frame connection.writer (connection.finish frame).1 := by
  unfold finish
  cases closed : connection.writer.isClosed with
  | true => exact .of_same rfl rfl rfl
  | false =>
    have writes := connection.writer.write_writes nonempty
    rw [if_neg Bool.false_ne_true]
    generalize connection.writer.write frame = wrote at writes
    obtain ⟨outcome, writer⟩ := wrote
    cases writes with
    | refused => exact .of_same rfl rfl rfl
    | flushed sound => exact .of_delivers rfl rfl ⟨rfl, Transport.WaitsAlike.not_struck ⟨rfl, rfl⟩⟩
    | unwritten _ _ same => exact .of_same rfl rfl same
    | unflushed _ _ wrote struck =>
      exact .of_fails rfl rfl (.inr wrote) fun delivers => delivers.2 (.inr struck)

theorem conclude_concludes (task : Task σ) (memory : σ) (outcome : Except Failure Reply)
    (connection : Connection σ) :
    (connection.conclude task memory outcome).2.Concludes (answerOf task outcome).2
      connection.writer (connection.conclude task memory outcome).1 :=
  -- what is remembered and counted by then is not the transport's business
  finish_concludes (answerOf_ne_nil task outcome)
    (({ connection with memory, stage := .completed } : Connection σ).observe
      (.operation task.kind.name (answerOf task outcome).1))

theorem reject_concludes (refusal : Refusal) (connection : Connection σ) :
    (connection.reject (.refused refusal)).2.Concludes
      (Response.message refusal.id
        (Element.write refusal.response.tag (Response.components refusal.code "" refusal.reason)))
      connection.writer (connection.reject (.refused refusal)).1 :=
  finish_concludes (Response.message_ne_nil _ _)
    { connection.observe (.decodeError false) with stage := .completed }

theorem reject_malformed (reason : String) (connection : Connection σ) :
    (connection.reject (.malformed reason)).1 = .close ∧
      (connection.reject (.malformed reason)).2.stage = .closed ∧
      ((connection.reject (.malformed reason)).2.written = connection.written ∨
        (connection.reject (.malformed reason)).2.written =
          connection.written ++ [Response.notice .protocolError reason]) := by
  refine ⟨rfl, rfl, ?_⟩
  rcases Writer.write_written (Response.message_ne_nil _ _) connection.writer with
    ⟨-, wrote⟩ | ⟨-, same⟩
  · exact .inr wrote
  · exact .inl same

end Connection

namespace Underway

variable {ω σ : Type} {handler : Handler σ} {environment : Environment ω} {message : Message}
  {start final : Connection σ} {last reached : Underway σ} {flow : Flow}

/-- How an operation ends: up to then its entries have been written at most, and the answer
is of the kind that the request calls for and says how the handler ended. -/
structure IsAnswered (message : Message) (start : Connection σ) (last : Underway σ) (flow : Flow)
    (final : Connection σ) : Prop where
  streamed : ∃ frames, last.connection.written = start.written ++ frames ∧
    ∀ frame ∈ frames, ∃ request entry,
      message.request = .search request ∧ frame = request.frame message.id entry
  answered : ∃ response told, message.request.kind.response? = some response ∧
    last.task.turn? last.now last.connection.writer = some (.ended told) ∧
    final.Concludes
      (Response.message message.id (Element.write response.tag (answerContent told)))
      last.connection.writer flow

theorem Arises.streamed (h : reached.Arises handler environment message start) :
    ∃ frames, reached.connection.written = start.written ++ frames ∧
      ∀ frame ∈ frames, ∃ request entry,
        message.request = .search request ∧ frame = request.frame message.id entry := by
  obtain ⟨begun, stream, happenings, runs, silent, limits⟩ := h.feed
  have written := Feed.run_written ⟨begun, stream, start.writer⟩ happenings
  rw [← runs, List.append_assoc] at written
  refine ⟨_, written, fun frame mem => ?_⟩
  rw [← List.map_append, List.mem_map] at mem
  obtain ⟨call, mem, rfl⟩ := mem
  have made : call ∈ (⟨begun, stream, start.writer⟩ : Feed).calls happenings :=
    (List.mem_append.1 mem).elim List.mem_of_mem_filter List.mem_of_mem_filter
  by_cases search : message.request.kind = .search
  · obtain ⟨request, search⟩ := Request.exists_of_search search
    cases limits request search
    exact ⟨request, call.entry, search, Feed.frame_of_mem made⟩
  · rw [silent search] at made
    cases made

theorem Arises.isAnswered (h : last.Arises handler environment message start)
    (ends : last.Ends environment flow final) : last.IsAnswered message start flow final := by
  obtain ⟨turns, frames, serving⟩ := h.serving
  refine ⟨h.streamed, last.task.response, ?_⟩
  obtain ⟨outside, outside', steps⟩ := ends
  have restrained := serving.restrained
  cases program : last.task.program with
  | done memory outcome =>
    rw [program] at restrained
    rw [Task.step_of_done program] at steps
    cases steps
    have concludes := last.connection.conclude_concludes last.task memory outcome
    rw [Connection.answerOf_frame (serving.fits restrained), serving.id] at concludes
    exact ⟨some outcome, serving.response, by simp only [Task.turn?, program], concludes⟩
  | crash memory reason =>
    rw [Task.step_of_crash program] at steps
    cases steps
    have concludes := last.connection.conclude_concludes last.task memory (.error .serverError)
    have plain : ∀ response,
        (.error .serverError : Except Failure Reply) ≠ .ok (.extended response) := by simp
    rw [Connection.answerOf_frame (.inr plain), serving.id] at concludes
    exact ⟨none, serving.response, by simp only [Task.turn?, program], concludes⟩
  | wait next =>
    simp only [Task.step, program] at steps
    cases steps
  | ask question next =>
    rw [Task.step_of_ask program] at steps
    cases steps

theorem exists_ends (environment : Environment ω) (outside : ω) (reached : Underway σ) :
    ∃ last flow final, Relation.ReflTransGen (Moves environment) reached last ∧
      last.Ends environment flow final := by
  generalize program : reached.task.program = rest
  induction rest generalizing reached with
  | done memory outcome =>
    exact ⟨reached, _, _, .refl, outside, outside, Task.step_of_done program _ _ _⟩
  | crash memory reason =>
    exact ⟨reached, _, _, .refl, outside, outside, Task.step_of_crash program _ _ _⟩
  | wait next ih =>
    have woken : reached.task.wake.program = next := by simp only [Task.wake, program]
    obtain ⟨last, flow, final, path, ends⟩ := ih { reached with task := reached.task.wake } woken
    exact ⟨last, flow, final, .head .woken path, ends⟩
  | ask question next ih =>
    let told := Exchange.answer environment reached.now question
      { outside, stream := reached.task.stream, connection := reached.connection }
    obtain ⟨last, flow, final, path, ends⟩ := ih told.1
      { reached with
        task := { reached.task with stream := told.2.stream, program := next told.1 }
        connection := told.2.connection } rfl
    exact ⟨last, flow, final, .head (.stepped (Task.step_of_ask program _ outside _)) path, ends⟩

end Underway

section

variable {ω σ : Type} {handler : Handler σ} {environment : Environment ω} {message : Message}
  {start final : Connection σ} {flow : Flow}

theorem Dispatches.of_unanswered (h : Dispatches handler environment message start flow final)
    (unanswered : message.request.kind.response? = none) :
    ∃ now, start.begin handler now message = (.inl flow, final) := by
  cases h with
  | atOnce now begins => exact ⟨now, begins⟩
  | afterwards arises ends =>
    obtain ⟨turns, frames, serving⟩ := arises.serving
    rw [serving.response] at unanswered
    cases unanswered

structure Settles (handler : Handler σ) (environment : Environment ω) (message : Message)
    (start : Connection σ) : Prop where
  unbind : message.request.kind = .unbind → ∀ flow final,
    Dispatches handler environment message start flow final → flow = .close ∧ final = start.close
  abandon : message.request.kind = .abandon → ∀ flow final,
    Dispatches handler environment message start flow final →
      flow = .proceed ∧ final = { start with stage := .idle }
  begins : message.request.kind ≠ .unbind → message.request.kind ≠ .abandon → ∀ now,
    ∃ task opened, start.begin handler now message = (.inr task, opened)
  answers : ∀ (last : Underway σ) flow final, last.Arises handler environment message start →
    last.Ends environment flow final → last.IsAnswered message start flow final
  returns : ∀ reached, reached.Arises handler environment message start → ∀ _ : ω,
    ∃ last flow final, Relation.ReflTransGen (Underway.Moves environment) reached last ∧
      last.Ends environment flow final
  /-- The notes of its calls are one call longer, or as they were. -/
  calls : ∀ notes flow noted,
    Dispatches handler.noted environment message (start.noting notes) flow noted ↔
      ∃ final : Connection σ, noted = final.noting (notes ++ message.request.call?.toList) ∧
        Dispatches handler environment message start flow final

theorem Connection.begin_unbind (unbind : message.request.kind = .unbind) (handler : Handler σ)
    (now : Nat) (start : Connection σ) :
    start.begin handler now message = (.inl .close, start.close) := by
  simp only [begin, unbind]
  rfl

theorem Connection.begin_abandon (abandon : message.request.kind = .abandon) (handler : Handler σ)
    (now : Nat) (start : Connection σ) :
    start.begin handler now message = (.inl .proceed, { start with stage := .idle }) := by
  simp only [begin, abandon]
  rfl

theorem RequestKind.exists_response {kind : RequestKind} (unbind : kind ≠ .unbind)
    (abandon : kind ≠ .abandon) : ∃ response, kind.response? = some response := by
  cases kind with
  | unbind => exact absurd rfl unbind
  | abandon => exact absurd rfl abandon
  | _ => exact ⟨_, rfl⟩

theorem settles (handler : Handler σ) (environment : Environment ω) (message : Message)
    (start : Connection σ) : Settles handler environment message start where
  unbind unbind flow final dispatches := by
    obtain ⟨now, begins⟩ := dispatches.of_unanswered (by rw [unbind]; rfl)
    rw [Connection.begin_unbind unbind] at begins
    cases begins
    exact ⟨rfl, rfl⟩
  abandon abandon flow final dispatches := by
    obtain ⟨now, begins⟩ := dispatches.of_unanswered (by rw [abandon]; rfl)
    rw [Connection.begin_abandon abandon] at begins
    cases begins
    exact ⟨rfl, rfl⟩
  begins unbind abandon now := by
    obtain ⟨response, answered⟩ := RequestKind.exists_response unbind abandon
    obtain ⟨stage, task, begun, -⟩ := Connection.begin_of_answered handler now start answered
    exact ⟨task, _, begun⟩
  answers last flow final arises ends := arises.isAnswered ends
  returns reached _ outside := reached.exists_ends environment outside
  calls notes flow noted := Underway.dispatches_noting_iff

/-- Whatever a handler does, and wherever its transport fails, a request other than unbind and
abandon is one call of the handler and one answer, and the flow and the stage say whether the
answer has been delivered. A message that is refused is answered in the same way, and one that
is malformed closes the connection. And in a service, whatever happens there, such an operation
is still under way, or has been dispatched so, or its session has been dropped. -/
theorem dispatch_settles (handler : Handler σ) (environment : Environment ω) (message : Message)
    (start : Connection σ) :
    Settles handler environment message start ∧
      (∀ refusal : Refusal, (start.reject (.refused refusal)).2.Concludes
        (Response.message refusal.id (Element.write refusal.response.tag
          (Response.components refusal.code "" refusal.reason)))
        start.writer (start.reject (.refused refusal)).1) ∧
      (∀ reason, (start.reject (.malformed reason)).1 = .close ∧
        (start.reject (.malformed reason)).2.stage = .closed ∧
        ((start.reject (.malformed reason)).2.written = start.written ∨
          (start.reject (.malformed reason)).2.written =
            start.written ++ [Response.notice .protocolError reason])) ∧
      ∀ (service : Service ω σ) (number : Nat) (session : Session σ) (task : Task σ),
        service.handler number = handler → service.environment = environment →
          service.session? number = some session → session.phase = .busy task →
            (session.underway service.now task).Arises handler environment message start →
              ∀ events, service.Fares number message start events := by
  refine ⟨settles handler environment message start, fun refusal => start.reject_concludes refusal,
    fun reason => start.reject_malformed reason, ?_⟩
  rintro service number session task rfl rfl found busy arises events
  exact Service.run_fares found busy arises events

/-- A search that sends one entry and crashes, while the flush of its answer fails. Its call
is noted all the same, and in a service it fares no otherwise. -/
theorem dispatch_settles_crash :
    let entry : Entry := { dn := "uid=ann", attributes := .ofPairs [("cn", ["Ann"])] }
    let search (_ : SearchRequest) : Operation streaming Unit Unit := do
      Streaming.send entry
      Operation.crash
    let handler : Handler Unit := { search }
    let request : SearchRequest := { base := "", scope := .base, filter := .always }
    let start : Connection Unit := { memory := () }
    let last : Underway Unit := {
      now := 0
      task := {
        id := 7, kind := .search, response := .searchDone
        stream := { SearchStream.ofRequest 7 0 request with count := 1 }
        program := .crash () none }
      connection := {
        memory := (), stage := .streaming, observed := [.entrySent]
        writer.transport := {
          written := [request.frame 7 entry], flushError := some ⟨.brokenPipe, ""⟩ } } }
    let final := (last.connection.conclude last.task () (.error .serverError)).2
    let service : Service Shared Unit := {
      handler, environment := Shared.environment, limit := 100, fresh := ()
      outside := { directory := .vacant }
      sessions := [(1, { limit := 100, connection := last.connection, phase := .busy last.task })] }
    last.Arises handler Shared.environment ⟨7, .search request, []⟩ start ∧
      last.Ends Shared.environment .close final ∧
      last.IsAnswered ⟨7, .search request, []⟩ start .close final ∧
      final.stage = .closed ∧ final.written.length = 2 ∧
      Dispatches handler.noted Shared.environment ⟨7, .search request, []⟩ (start.noting [])
        .close (final.noting [.search request]) ∧
      ∀ events, service.Fares 1 ⟨7, .search request, []⟩ start events := by
  intro entry search handler request start last final service
  let shared : Shared := { directory := .vacant }
  let opened : Underway Unit := {
    now := 0
    task := {
      id := 7, kind := .search, response := .searchDone
      stream := .ofRequest 7 0 request, program := handler.perform (.search request) () }
    connection := { start with stage := .streaming } }
  obtain ⟨settled, -, -, fares⟩ :=
    dispatch_settles handler Shared.environment ⟨7, .search request, []⟩ start
  have arises : last.Arises handler Shared.environment ⟨7, .search request, []⟩ start := by
    have begun : opened.Arises handler Shared.environment ⟨7, .search request, []⟩ start :=
      .begun rfl
    have steps : opened.task.step Shared.environment 0 shared opened.connection =
        (.running last.task, shared,
          { last.connection with writer.transport.flushError := none }) := rfl
    exact (begun.moved (.stepped steps)).moved (.failed .flush ⟨.brokenPipe, ""⟩)
  have ends : last.Ends Shared.environment .close final := ⟨shared, shared, rfl⟩
  refine ⟨arises, ends, settled.answers last .close final arises ends, ?_, ?_, ?_, ?_⟩
  · rfl
  · rfl
  · exact (settled.calls [] .close _).2 ⟨final, rfl, .afterwards arises ends⟩
  · exact fares service 1 _ last.task rfl rfl rfl rfl arises

end

end LdapService

import LdapService.Proofs.Message.Framing
import LdapService.Proofs.Program.Restraint
import LdapService.Proofs.Session.Calm
import LdapService.Proofs.Session.Serving

/-!
What a client gets for the messages that it sends: one block of frames for each, in
their order. A block ends in exactly one answer, whatever the handler does, and only
a search has frames in it before that. The invariant of a run says how far it has
come: which messages are done with, and what the one under way has brought so far.
-/

namespace LdapService

open Ber

def answerContent : Option (Except Failure Reply) → Octets
  | some (.ok (.code code)) => Response.components code "" ""
  | some (.ok (.extended response)) =>
      Response.components .success "" ""
        ++ Response.optionalPart Tag.Extended.responseName (response.name.map Text.utf8)
        ++ Response.optionalPart Tag.Extended.responseValue response.value
  | some (.error failure) =>
      Response.components failure.code "" (failure.diagnostic.getD "")
  | none => Response.components Failure.serverError.code "" ""

abbrev Sendings := List (Entry × Except Failure Unit)

namespace Sendings

def turns (sendings : Sendings) : List Turn :=
  sendings.map fun sending => .sent sending.1 sending.2

def delivered (sendings : Sendings) : List Entry :=
  sendings.filterMap fun sending => sending.2.toOption.map fun _ => sending.1

end Sendings

def SearchRequest.frame (id : Nat) (request : SearchRequest) (entry : Entry) : Octets :=
  ({ id, attributes := request.attributes, typesOnly := request.typesOnly } : SearchStream).frame entry

/-- What one message brings: the turns of the handler and the frames for the client. -/
inductive Serves : Except DecodeError Message → List Turn → List Octets → Prop
  | search (id : Nat) (request : SearchRequest) (controls : List Control) (sendings : Sendings)
      (outcome : Option (Except Failure Reply)) :
      Serves (.ok ⟨id, .search request, controls⟩) (sendings.turns ++ [.ended outcome])
        (sendings.delivered.map (request.frame id) ++
          [Response.message id
            (Element.write ResponseKind.searchDone.tag (answerContent outcome))])
  | answered {message : Message} {response : ResponseKind} (other : message.request.kind ≠ .search)
      (expects : message.request.kind.response? = some response)
      (outcome : Option (Except Failure Reply)) :
      Serves (.ok message) [.ended outcome]
        [Response.message message.id (Element.write response.tag (answerContent outcome))]
  | unanswered {message : Message} (expects : message.request.kind.response? = none) :
      Serves (.ok message) [] []
  | refused (refusal : Refusal) :
      Serves (.error (.refused refusal)) []
        [Response.message refusal.id (Element.write refusal.response.tag
          (Response.components refusal.code "" refusal.reason))]

inductive Served : List (Except DecodeError Message) → List Turn → List Octets → Prop
  | nil : Served [] [] []
  | snoc {decoded : List (Except DecodeError Message)} {turns : List Turn} {frames : List Octets}
      (earlier : Served decoded turns frames) {last : Except DecodeError Message}
      {lastTurns : List Turn} {lastFrames : List Octets} (serves : Serves last lastTurns lastFrames) :
      Served (decoded ++ [last]) (turns ++ lastTurns) (frames ++ lastFrames)

def IsUnbind (decoded : Except DecodeError Message) : Prop :=
  ∃ message, decoded = .ok message ∧ message.request.kind = .unbind

@[simp] theorem isUnbind_ok (message : Message) :
    IsUnbind (.ok message) ↔ message.request.kind = .unbind := by
  constructor
  · rintro ⟨other, same, unbind⟩
    cases same
    exact unbind
  · exact fun unbind => ⟨message, rfl, unbind⟩

@[simp] theorem not_isUnbind_error (error : DecodeError) : ¬IsUnbind (.error error) := by
  rintro ⟨message, same, -⟩
  cases same

instance (decoded : Except DecodeError Message) : Decidable (IsUnbind decoded) :=
  match decoded with
  | .error error => isFalse (not_isUnbind_error error)
  | .ok message => decidable_of_iff _ (isUnbind_ok message).symm

def throughUnbind : List (Except DecodeError Message) → List (Except DecodeError Message)
  | [] => []
  | first :: rest => if IsUnbind first then [first] else first :: throughUnbind rest

theorem throughUnbind_of_none {decoded : List (Except DecodeError Message)}
    (none : ∀ one ∈ decoded, ¬IsUnbind one) : throughUnbind decoded = decoded := by
  induction decoded with
  | nil => rfl
  | cons first rest ih =>
    obtain ⟨notFirst, others⟩ := List.forall_mem_cons.1 none
    rw [throughUnbind, if_neg notFirst, ih others]

theorem throughUnbind_of_unbind {before after : List (Except DecodeError Message)}
    {unbind : Except DecodeError Message} (none : ∀ one ∈ before, ¬IsUnbind one)
    (last : IsUnbind unbind) : throughUnbind (before ++ unbind :: after) = before ++ [unbind] := by
  induction before with
  | nil => rw [List.nil_append, throughUnbind, if_pos last, List.nil_append]
  | cons first rest ih =>
    obtain ⟨notFirst, others⟩ := List.forall_mem_cons.1 none
    rw [List.cons_append, throughUnbind, if_neg notFirst, ih others, List.cons_append]

theorem Response.message_ne_nil (id : Nat) (operation : Octets) : message id operation ≠ [] :=
  List.cons_ne_nil _ _

namespace Writer

def sent (frame : Octets) (writer : Writer) : Writer :=
  { writer with
    transport := { writer.transport with written := writer.transport.written ++ [frame] } }

theorem IsSound.write_eq {writer : Writer} (h : writer.IsSound) {frame : Octets}
    (nonempty : frame ≠ []) : writer.write frame = (.ok (), writer.sent frame) := by
  have transmitted : transmit frame writer.transport = (.ok (), (writer.sent frame).transport) := by
    unfold transmit Transport.write
    simp only [nonempty, if_false, h.write, Transport.flush, h.flush, Writer.sent]
  simp only [Writer.write, h.isOpen, transmitted, Bool.false_eq_true, if_false]
  rfl

theorem IsSound.sent {writer : Writer} (h : writer.IsSound) (frame : Octets) :
    (writer.sent frame).IsSound := ⟨h.isOpen, h.write, h.flush⟩

end Writer

theorem SearchStream.frame_ne_nil (stream : SearchStream) (entry : Entry) : stream.frame entry ≠ [] :=
  Response.message_ne_nil _ _

def SearchStream.HasRoom (stream : SearchStream) : Prop :=
  stream.sizeLimit = 0 ∨ stream.sent < stream.sizeLimit

theorem SearchStream.send_of_room {writer : Writer} (sound : writer.IsSound) {stream : SearchStream}
    (room : stream.HasRoom) {now : Nat} (early : stream.deadline.any (· ≤ now) = false)
    (entry : Entry) :
    stream.send Writer.sink now entry writer =
      (.ok (), { stream with count := stream.count + 1 }, writer.sent (stream.frame entry)) := by
  have accepted : stream.refusal? (Writer.sink.isClosed writer) now = none := by
    have more : ¬(0 < stream.sizeLimit ∧ stream.sizeLimit ≤ stream.sent) := by
      rw [HasRoom] at room
      omega
    change stream.refusal? writer.isClosed now = none
    rw [refusal?, sound.isOpen, if_neg Bool.false_ne_true, if_neg more, early,
      if_neg Bool.false_ne_true]
  have wrote : Writer.sink.write (stream.frame entry) writer = _ :=
    sound.write_eq (stream.frame_ne_nil entry)
  simp only [send, accepted, wrote]

theorem SearchStream.send_of_isSound {writer : Writer} (h : writer.IsSound) (now : Nat)
    (entry : Entry) (stream : SearchStream) :
    ∃ outcome stream' writer', stream.send Writer.sink now entry writer = (outcome, stream', writer') ∧
      writer'.IsSound ∧ (∀ other, stream'.frame other = stream.frame other) ∧
      (outcome = .ok () ∧ writer' = writer.sent (stream.frame entry) ∨
        (∃ failure, outcome = .error failure) ∧ writer' = writer) := by
  unfold send
  cases stream.refusal? (Writer.sink.isClosed writer) now with
  | some failure => exact ⟨_, _, _, rfl, h, fun _ => rfl, .inr ⟨⟨failure, rfl⟩, rfl⟩⟩
  | none =>
    simp only [Writer.sink, h.write_eq (stream.frame_ne_nil entry)]
    exact ⟨_, _, _, rfl, h.sent _, fun _ => rfl, .inl ⟨rfl, rfl⟩⟩

namespace Connection

variable {σ : Type}

theorem finish_sent {connection : Connection σ} (h : connection.writer.IsSound) {frame : Octets}
    (nonempty : frame ≠ []) :
    connection.finish frame =
      (.proceed, { connection with writer := connection.writer.sent frame, stage := .idle }) := by
  simp only [finish, h.isOpen, Bool.false_eq_true, if_false, h.write_eq nonempty]

theorem reject_refused {connection : Connection σ} (h : connection.writer.IsSound)
    (refusal : Refusal) :
    connection.reject (.refused refusal) =
      (.proceed, { connection.observe (.decodeError false) with
        stage := .idle
        writer := connection.writer.sent (Response.message refusal.id
          (Element.write refusal.response.tag
            (Response.components refusal.code "" refusal.reason))) }) := by
  have sound : ({ connection.observe (.decodeError false) with stage := .completed } :
      Connection σ).writer.IsSound := h
  exact finish_sent sound (Response.message_ne_nil _ _)

theorem answerOf_frame {task : Task σ} {outcome : Except Failure Reply}
    (fits : task.response = .extended ∨ ∀ response, outcome ≠ .ok (.extended response)) :
    (answerOf task outcome).2 =
      Response.message task.id (Element.write task.response.tag (answerContent (some outcome))) := by
  cases outcome with
  | error failure => rfl
  | ok reply =>
    cases reply with
    | code code => rfl
    | extended response =>
      rcases fits with extended | other
      · rw [extended]
        rfl
      · exact absurd rfl (other response)

theorem conclude_sent {connection : Connection σ} (h : connection.writer.IsSound) {task : Task σ}
    (memory : σ) {outcome : Except Failure Reply}
    (fits : task.response = .extended ∨ ∀ response, outcome ≠ .ok (.extended response)) :
    ∃ connection', connection.conclude task memory outcome = (.proceed, connection') ∧
      connection'.writer = connection.writer.sent
        (Response.message task.id
          (Element.write task.response.tag (answerContent (some outcome)))) := by
  have sound : (({ connection with memory, stage := .completed } : Connection σ).observe
      (.operation task.kind.name (answerOf task outcome).1)).writer.IsSound := h
  have finished := finish_sent sound (Response.message_ne_nil task.id
    (Element.write task.response.tag (answerContent (some outcome))))
  rw [← answerOf_frame fits] at finished
  refine ⟨_, finished, ?_⟩
  rw [answerOf_frame fits]
  rfl

end Connection

theorem Exchange.answer_send {ω σ : Type} (environment : Environment ω) {now : Nat}
    {entry : Entry} (exchange : Exchange ω σ) {outcome : Except Failure Unit}
    {stream : SearchStream} {writer : Writer} :
    exchange.stream.send Writer.sink now entry exchange.connection.writer =
        (outcome, stream, writer) →
      exchange.answer environment now (.send entry) =
        (outcome, { exchange with
          stream
          connection := match outcome with
            | .ok () => ({ exchange.connection with writer } : Connection σ).observe .entrySent
            | .error _ => { exchange.connection with writer } }) := by
  intro sends
  change Exchange.send now entry exchange = _
  cases outcome with
  | ok => simp only [Exchange.send, sends]
  | error => simp only [Exchange.send, sends]

/-- How far the block of a message has come while its task is under way. -/
structure Task.Serving {σ : Type} (message : Message) (turns : List Turn) (frames : List Octets)
    (task : Task σ) : Prop where
  id : task.id = message.id
  response : message.request.kind.response? = some task.response
  restrained : task.program.IsRestrained message.request.MayAsk message.request.MayEnd
  entries : ∀ request, message.request = .search request →
    ∀ entry, task.stream.frame entry = request.frame message.id entry
  progress : ∃ sendings : Sendings, (message.request.kind ≠ .search → sendings = []) ∧
    turns = sendings.turns ∧ frames = sendings.delivered.map task.stream.frame

namespace Task.Serving

variable {ω σ : Type} {message : Message} {turns : List Turn} {frames : List Octets} {task : Task σ}

theorem ends (h : task.Serving message turns frames) (outcome : Option (Except Failure Reply)) :
    Serves (.ok message) (turns ++ [.ended outcome])
      (frames ++ [Response.message task.id (Element.write task.response.tag (answerContent outcome))]) := by
  obtain ⟨sendings, others, rfl, rfl⟩ := h.progress
  have expects := h.response
  rw [h.id]
  by_cases search : message.request.kind = .search
  · obtain ⟨id, request, controls⟩ := message
    cases request with
    | search request =>
      have frames : sendings.delivered.map task.stream.frame =
          sendings.delivered.map (request.frame id) :=
        List.map_congr_left fun entry _ => h.entries request rfl entry
      have response : task.response = .searchDone := (Option.some.inj expects).symm
      rw [frames, response]
      exact .search id request controls sendings outcome
    | _ => cases search
  · rw [others search]
    exact .answered search expects outcome

theorem resume (h : task.Serving message turns frames)
    {program : Program streaming σ (Except Failure Reply)}
    (restrained : program.IsRestrained message.request.MayAsk message.request.MayEnd) :
    ({ task with program } : Task σ).Serving message turns frames :=
  ⟨h.id, h.response, restrained, h.entries, h.progress⟩

theorem wake (h : task.Serving message turns frames) : task.wake.Serving message turns frames := by
  unfold Task.wake
  split
  · next rest waiting =>
    have restrained := h.restrained
    rw [waiting] at restrained
    exact h.resume restrained
  · exact h

theorem sends (h : task.Serving message turns frames) (search : message.request.kind = .search)
    {stream : SearchStream} (same : ∀ entry, stream.frame entry = task.stream.frame entry)
    {program : Program streaming σ (Except Failure Reply)}
    (restrained : program.IsRestrained message.request.MayAsk message.request.MayEnd)
    (entry : Entry) (outcome : Except Failure Unit) :
    ({ task with stream, program } : Task σ).Serving message (turns ++ [.sent entry outcome])
      (frames ++ (outcome.toOption.map fun _ => task.stream.frame entry).toList) := by
  obtain ⟨sendings, others, rfl, rfl⟩ := h.progress
  refine ⟨h.id, h.response, restrained, ?_, sendings ++ [(entry, outcome)], ?_, ?_, ?_⟩
  · intro request is_search other
    rw [← h.entries request is_search other]
    exact same other
  · exact fun other => absurd search other
  · simp [Sendings.turns]
  · have frames : stream.frame = task.stream.frame := funext same
    cases outcome with
    | ok => simp [Sendings.delivered, frames, Except.toOption]
    | error => simp [Sendings.delivered, frames, Except.toOption]

theorem fits (h : task.Serving message turns frames) {outcome : Except Failure Reply}
    (ends : message.request.MayEnd outcome) :
    task.response = .extended ∨ ∀ response, outcome ≠ .ok (.extended response) := by
  rcases ends with extended | other
  · have response := h.response
    rw [extended] at response
    exact .inl (Option.some.inj response).symm
  · exact .inr other

variable {connection : Connection σ}

theorem concludes (h : task.Serving message turns frames) (sound : connection.writer.IsSound)
    (memory : σ) {outcome : Except Failure Reply} (told : Option (Except Failure Reply))
    (same : answerContent (some outcome) = answerContent told)
    (ends : message.request.MayEnd outcome) :
    ∃ connection', connection.conclude task memory outcome = (.proceed, connection') ∧
      ∃ more, Serves (.ok message) (turns ++ [.ended told]) (frames ++ more) ∧
        connection'.writer.IsSound ∧
        connection'.writer.transport.written = connection.writer.transport.written ++ more := by
  obtain ⟨connection', concluded, written⟩ :=
    Connection.conclude_sent sound memory (h.fits ends)
  rw [same] at written
  refine ⟨connection', concluded, _, h.ends told, ?_, ?_⟩
  · rw [written]
    exact sound.sent _
  · rw [written]
    rfl

theorem asks (h : task.Serving message turns frames) (sound : connection.writer.IsSound)
    {program : Program streaming σ (Except Failure Reply)}
    (restrained : program.IsRestrained message.request.MayAsk message.request.MayEnd) :
    ∃ more, ({ task with program } : Task σ).Serving message (turns ++ []) (frames ++ more) ∧
      connection.writer.IsSound ∧
      connection.writer.transport.written = connection.writer.transport.written ++ more := by
  refine ⟨[], ?_, sound, (List.append_nil _).symm⟩
  rw [List.append_nil, List.append_nil]
  exact h.resume restrained

theorem step (h : task.Serving message turns frames) (sound : connection.writer.IsSound)
    (environment : Environment ω) (now : Nat) (outside : ω) :
    match task.step environment now outside connection with
    | (.waiting, _, _) => True
    | (.running next, _, connection') => ∃ more,
        next.Serving message (turns ++ (task.turn? now connection.writer).toList)
          (frames ++ more) ∧
        connection'.writer.IsSound ∧
        connection'.writer.transport.written = connection.writer.transport.written ++ more
    | (.finished flow, _, connection') => flow = .proceed ∧ ∃ more,
        Serves (.ok message) (turns ++ (task.turn? now connection.writer).toList)
          (frames ++ more) ∧
        connection'.writer.IsSound ∧
        connection'.writer.transport.written = connection.writer.transport.written ++ more := by
  have restrained := h.restrained
  cases program : task.program with
  | done memory outcome =>
    rw [program] at restrained
    obtain ⟨connection', concluded, more⟩ := h.concludes sound memory (some outcome) rfl restrained
    rw [Task.step_of_done program, concluded, Task.turn?, program]
    exact ⟨rfl, more⟩
  | crash memory reason =>
    have crashed : answerContent (some (.error .serverError)) = answerContent none := rfl
    obtain ⟨connection', concluded, more⟩ := h.concludes sound memory none crashed (.inr (by simp))
    simp only [Task.step, program, concluded, Task.turn?]
    exact ⟨trivial, more⟩
  | wait next => simp only [Task.step, program]
  | ask question next =>
    rw [program] at restrained
    obtain ⟨allowed, goesOn⟩ := restrained
    rw [Task.step_of_ask program]
    cases question with
    | backend question =>
      rw [Task.turn?, program]
      exact h.asks sound (goesOn _)
    | isClosed =>
      rw [Task.turn?, program]
      exact h.asks sound (goesOn _)
    | send entry =>
      have search : message.request.kind = .search := by
        rcases allowed with search | ⟨inner, same⟩
        · exact search
        · cases same
      obtain ⟨outcome, stream, writer, sends, sound', same, written⟩ :=
        SearchStream.send_of_isSound sound now entry task.stream
      have turn : task.turn? now connection.writer = some (.sent entry outcome) := by
        simp only [Task.turn?, program, sends]
      have answer := Exchange.answer_send environment
        { outside, stream := task.stream, connection } sends
      have resumed := h.sends search same (goesOn outcome) entry outcome
      rw [turn, answer]
      rcases written with ⟨rfl, rfl⟩ | ⟨⟨failure, rfl⟩, rfl⟩
      · exact ⟨[task.stream.frame entry], resumed, sound', rfl⟩
      · exact ⟨[], resumed, sound', (List.append_nil _).symm⟩

end Task.Serving

namespace Connection

variable {σ : Type} (handler : Handler σ) (now : Nat) {message : Message} (connection : Connection σ)

theorem begin_of_unanswered (unanswered : message.request.kind.response? = none) :
    ∃ stage, connection.begin handler now message =
      (.inl (if message.request.kind = .unbind then .close else .proceed),
        { connection with stage }) := by
  unfold begin
  simp only [unanswered]
  split
  · exact ⟨_, rfl⟩
  · exact ⟨_, rfl⟩

theorem begin_of_answered {response : ResponseKind}
    (answered : message.request.kind.response? = some response) :
    ∃ stage task, connection.begin handler now message = (.inr task, { connection with stage }) ∧
      task.Serving message [] [] := by
  unfold begin
  simp only [answered]
  refine ⟨_, _, rfl, rfl, answered, handler.perform_isRestrained _ _, ?_, [], ?_⟩
  · intro request search entry
    simp only [search]
    rfl
  · exact ⟨fun _ => rfl, rfl, rfl⟩

end Connection

namespace Session

variable {σ : Type}

theorem peerGone_of_isSound {session : Session σ}
    (sound : session.connection.writer.IsSound) :
    session.connection.writer.peerGone = false := by
  have isOpen := sound.isOpen
  simp only [Writer.isClosed, Bool.or_eq_false_iff] at isOpen
  exact isOpen.2

/-- What a frame makes of a session, with a sound writer, that takes it up: its block is
complete at once, or its client has unbound, or it is malformed, or its block has begun. -/
inductive TakesUp (frame : Octets) (session : Session σ) : Session σ → Prop
  | served {connection : Connection σ} {block : List Octets} {phase : Phase σ}
      (free : IsFree { session with connection, phase })
      (continues : ¬IsUnbind (Message.decode frame))
      (serves : Serves (Message.decode frame) [] block) (sound : connection.writer.IsSound)
      (written : connection.writer.transport.written =
        session.connection.writer.transport.written ++ block) :
      TakesUp frame session { session with connection, phase }
  | unbound {connection : Connection σ} (last : IsUnbind (Message.decode frame))
      (serves : Serves (Message.decode frame) [] [])
      (same : connection.writer = session.connection.writer) :
      TakesUp frame session { session with connection, phase := .settled .close }
  | malformed {connection : Connection σ} {reason : String}
      (decoded : Message.decode frame = .error (.malformed reason))
      (same : connection.writer = session.connection.writer) :
      TakesUp frame session ({ session with connection }.reject (.malformed reason))
  | begun {connection : Connection σ} {message : Message} {task : Task σ}
      (decoded : Message.decode frame = .ok message) (serving : task.Serving message [] [])
      (same : connection.writer = session.connection.writer) :
      TakesUp frame session { session with connection, phase := .busy task }

theorem takeMessage_takesUp {session : Session σ} (sound : session.connection.writer.IsSound)
    (handler : Handler σ) (now : Nat) (frame : Octets) :
    session.TakesUp frame (session.takeMessage handler now frame) := by
  unfold takeMessage
  cases decoded : Message.decode frame with
  | error error =>
    cases error with
    | malformed reason => exact .malformed decoded rfl
    | refused refusal =>
      have decoding : ({ session.connection with stage := .decoding } :
        Connection σ).writer.IsSound := sound
      have rejected := Connection.reject_refused decoding refusal
      have serves := Serves.refused refusal
      rw [← decoded] at serves
      simp only [reject, rejected]
      exact .served (.inl rfl) (by simp [decoded]) serves (sound.sent _) rfl
  | ok message =>
    cases answered : message.request.kind.response? with
    | none =>
      obtain ⟨stage, begun⟩ := Connection.begin_of_unanswered handler now
        { session.connection with stage := .decoding } answered
      have serves := Serves.unanswered answered
      rw [← decoded] at serves
      simp only [begun]
      by_cases unbind : message.request.kind = .unbind
      · rw [if_pos unbind]
        exact .unbound ⟨message, decoded, unbind⟩ serves rfl
      · rw [if_neg unbind]
        exact .served (.inr rfl) (by simpa [decoded] using unbind) serves sound
          (List.append_nil _).symm
    | some response =>
      obtain ⟨stage, task, begun, serving⟩ :=
        Connection.begin_of_answered handler now
          { session.connection with stage := .decoding } answered
      simp only [begun]
      exact .begun decoded serving rfl

/-- What a step makes of a session, with a sound writer, while the block of a message is
under way: the block comes further, or it is complete. -/
inductive GoesOn (message : Message) (turns : List Turn) (frames : List Octets)
    (session : Session σ) : Session σ → Prop
  | further {connection : Connection σ} {task : Task σ} {more : List Octets}
      (serving : task.Serving message turns (frames ++ more)) (sound : connection.writer.IsSound)
      (written : connection.writer.transport.written =
        session.connection.writer.transport.written ++ more) :
      GoesOn message turns frames session { session with connection, phase := .busy task }
  | complete {connection : Connection σ} {more : List Octets}
      (serves : Serves (.ok message) turns (frames ++ more)) (sound : connection.writer.IsSound)
      (written : connection.writer.transport.written =
        session.connection.writer.transport.written ++ more) :
      GoesOn message turns frames session { session with connection, phase := .settled .proceed }

theorem step_goesOn {ω : Type} {message : Message} {turns : List Turn} {frames : List Octets}
    {task : Task σ} {handler : Handler σ} {environment : Environment ω} {now : Nat}
    {signal : Signal} {outside outside' : ω} {session session' : Session σ}
    (serving : task.Serving message turns frames) (sound : session.connection.writer.IsSound)
    (busy : session.phase = .busy task)
    (steps : session.step handler environment now signal outside = some (outside', session')) :
    session.GoesOn message (turns ++ (session.turn? now).toList) frames session' := by
  have turn : session.turn? now = task.turn? now session.connection.writer := by
    simp only [turn?, busy]
  have goesOn := serving.step sound environment now outside
  rw [turn]
  simp only [step, busy] at steps
  split at steps
  · cases steps
  · next stepped =>
    rw [stepped] at goesOn
    obtain ⟨more, serving', sound', written⟩ := goesOn
    cases steps
    exact .further serving' sound' written
  · next stepped =>
    rw [stepped] at goesOn
    obtain ⟨rfl, more, serves, sound', written⟩ := goesOn
    cases steps
    exact .complete serves sound' written

end Session

end LdapService

import LdapService.Directory.Shared
import LdapService.Proofs.Session.Blocks
import LdapService.Proofs.Session.Progress
import LdapService.Proofs.Session.Written

/-!
A session in calm weather answers what its client sends message by message and in
order, however the octets come and whatever the handler does. The invariant places
the session in the client's list of messages: those before it have had their blocks,
and what it has heard beyond them waits in its buffer.
-/

namespace LdapService

open Ber

namespace Frame

/-- Where whole messages stand in the buffer, the first of them is what is cut off. -/
theorem split_of_prefix {limit : Nat} {buffer frame more : Octets} {rest : List Octets}
    (complete : IsComplete limit frame) (whole : buffer ++ more = (frame :: rest).flatten) :
    split limit buffer = .ok none ∨
      ∃ after, split limit buffer = .ok (some (frame, after)) ∧ buffer = frame ++ after := by
  have first : split limit (buffer ++ more) = .ok (some (frame, rest.flatten)) := by
    rw [whole, List.flatten_cons]
    exact complete.split _
  cases cut : split limit buffer with
  | error cause =>
    rw [split_append_error cut] at first
    cases first
  | ok found =>
    cases found with
    | none => exact .inl rfl
    | some parts =>
      obtain ⟨found, after⟩ := parts
      rw [split_append_some cut] at first
      simp only [Except.ok.injEq, Option.some.injEq, Prod.mk.injEq] at first
      obtain ⟨rfl, -⟩ := first
      exact .inr ⟨after, rfl, (length_of_split cut).2⟩

end Frame

namespace Session

variable {ω σ : Type}

/-- How far a session has come with the messages that its client sends. -/
inductive Standing (frames : List Octets) (heard : Octets) (turns : List Turn)
    (session : Session σ) : Prop
  | between (done rest : List Octets) (parts : frames = done ++ rest)
      (heard : heard = done.flatten ++ session.buffer)
      (ongoing : ∀ frame ∈ done, ¬IsUnbind (Message.decode frame))
      (served : Served (done.map Message.decode) turns session.written)
      (sound : session.connection.writer.IsSound)
      (phase : session.IsFree ∨
        session.phase = .idle ∧ Frame.split session.limit session.buffer = .ok none)
  | during (done rest : List Octets) {frame : Octets} {message : Message} {task : Task σ}
      {earlier current : List Turn} {sent block : List Octets}
      (parts : frames = done ++ frame :: rest)
      (heard : heard = (done ++ [frame]).flatten ++ session.buffer)
      (ongoing : ∀ frame ∈ done, ¬IsUnbind (Message.decode frame))
      (served : Served (done.map Message.decode) earlier sent)
      (decoded : Message.decode frame = .ok message)
      (serving : task.Serving message current block)
      (turns : turns = earlier ++ current) (written : session.written = sent ++ block)
      (sound : session.connection.writer.IsSound) (phase : session.phase = .busy task)
  | after (done rest : List Octets) {unbind : Octets} (parts : frames = done ++ unbind :: rest)
      (ongoing : ∀ frame ∈ done, ¬IsUnbind (Message.decode frame))
      (last : IsUnbind (Message.decode unbind))
      (served : Served ((done ++ [unbind]).map Message.decode) turns session.written)
      (phase : session.phase = .settled .close ∨ ∃ result, session.phase = .ended result)

variable {frames : List Octets} {heard octets : Octets} {turns : List Turn} {session : Session σ}

theorem Standing.receive (h : session.Standing frames heard turns) (some : octets ≠ [])
    (reads : session.isReading = true) :
    (session.receive octets).Standing frames (heard ++ octets) turns := by
  rw [receive_eq_feed some reads]
  cases h with
  | between done rest parts heard ongoing served sound phase =>
    rcases phase with (ready | settled) | ⟨idle, -⟩
    · simp [isReading, ready] at reads
    · rw [feed_of_not_idle (by simp [settled])]
      refine .between done rest parts ?_ ongoing served sound (.inl (.inr settled))
      rw [heard, List.append_assoc]
    · rw [feed_of_idle idle]
      refine .between done rest parts ?_ ongoing served sound (.inl (.inl rfl))
      rw [heard, List.append_assoc]
  | during done rest parts heard ongoing served decoded serving turns written sound phase =>
    rw [feed_of_not_idle (by simp [phase])]
    refine .during done rest parts ?_ ongoing served decoded serving turns written sound phase
    rw [heard, List.append_assoc]
  | after done rest parts ongoing last served phase =>
    rcases phase with settled | ⟨result, ended⟩
    · rw [feed_of_not_idle (by simp [settled])]
      exact .after done rest parts ongoing last served (.inl settled)
    · simp [isReading, ended] at reads

theorem Standing.wake (h : session.Standing frames heard turns) (waits : session.isWaiting = true) :
    session.wake.Standing frames heard turns := by
  cases h with
  | between done rest parts heard ongoing served sound phase =>
    rcases phase with (ready | settled) | ⟨idle, -⟩
    · simp [isWaiting, ready] at waits
    · simp [isWaiting, settled] at waits
    · simp [isWaiting, idle] at waits
  | during done rest parts heard ongoing served decoded serving turns written sound phase =>
    simp only [Session.wake, phase]
    exact .during done rest parts heard ongoing served decoded serving.wake turns written sound rfl
  | after done rest parts ongoing last served phase =>
    rcases phase with settled | ⟨result, ended⟩
    · simp [isWaiting, settled] at waits
    · simp [isWaiting, ended] at waits

theorem Standing.done {done rest : List Octets} {frame : Octets} {earlier last : List Turn}
    {sent block : List Octets} (parts : frames = done ++ frame :: rest)
    (heard' : heard = (done ++ [frame]).flatten ++ session.buffer)
    (ongoing : ∀ frame ∈ done, ¬IsUnbind (Message.decode frame))
    (continues : ¬IsUnbind (Message.decode frame))
    (served : Served (done.map Message.decode) earlier sent)
    (serves : Serves (Message.decode frame) last block) (turns' : turns = earlier ++ last)
    (written' : session.written = sent ++ block)
    (sound : session.connection.writer.IsSound) (free : session.IsFree) :
    session.Standing frames heard turns := by
  have parts' : frames = (done ++ [frame]) ++ rest := by
    rw [parts, List.append_assoc]
    rfl
  have ongoing' : ∀ one ∈ done ++ [frame], ¬IsUnbind (Message.decode one) := by
    intro one mem
    rcases List.mem_append.1 mem with earlier | last
    · exact ongoing one earlier
    · rw [List.mem_singleton.1 last]
      exact continues
  refine .between (done ++ [frame]) rest parts' heard' ongoing' ?_ sound (.inl free)
  rw [List.map_append, turns', written']
  exact served.snoc serves

section Between

variable {done rest : List Octets} {frame : Octets} {handler : Handler σ} {now : Nat}

theorem Standing.takeMessage (parts : frames = done ++ frame :: rest)
    (heard' : heard = (done ++ [frame]).flatten ++ session.buffer)
    (ongoing : ∀ frame ∈ done, ¬IsUnbind (Message.decode frame))
    (served : Served (done.map Message.decode) turns session.written)
    (sound : session.connection.writer.IsSound)
    (understood : ∀ reason, Message.decode frame ≠ .error (.malformed reason)) :
    (session.takeMessage handler now frame).Standing frames heard turns := by
  have taken := takeMessage_takesUp sound handler now frame
  generalize session.takeMessage handler now frame = session' at taken ⊢
  cases taken with
  | served free continues serves sound' written =>
    refine .done parts heard' ongoing continues served serves ?_ written sound' free
    rw [List.append_nil]
  | @unbound connection last serves same =>
    have served' := served.snoc serves
    rw [List.append_nil, List.append_nil] at served'
    refine .after done rest parts ongoing last ?_ (.inl rfl)
    rw [List.map_append, written, Connection.written, same]
    exact served'
  | malformed decoded => exact absurd decoded (understood _)
  | begun decoded serving same =>
    refine .during done rest parts heard' ongoing served decoded serving ?_ ?_ ?_ rfl
    · rw [List.append_nil]
    · rw [List.append_nil, written, Connection.written, same]
      rfl
    · rw [same]
      exact sound

theorem Standing.next (complete : ∀ frame ∈ frames, Frame.IsComplete session.limit frame)
    (understood : ∀ frame ∈ frames, ∀ reason, Message.decode frame ≠ .error (.malformed reason))
    (within : heard <+: frames.flatten) (parts : frames = done ++ rest)
    (heard' : heard = done.flatten ++ session.buffer)
    (ongoing : ∀ frame ∈ done, ¬IsUnbind (Message.decode frame))
    (served : Served (done.map Message.decode) turns session.written)
    (sound : session.connection.writer.IsSound) :
    (session.next handler now .quiet).Standing frames heard turns := by
  obtain ⟨more, whole⟩ := within
  rw [parts, heard', List.flatten_append, List.append_assoc, List.append_cancel_left_eq] at whole
  rw [next_of_quiet handler now (peerGone_of_isSound sound)]
  have idle (cut : Frame.split session.limit session.buffer = .ok none) :
      ({ session with phase := .idle } : Session σ).Standing frames heard turns :=
    .between done rest parts heard' ongoing served sound (.inr ⟨rfl, cut⟩)
  cases rest with
  | nil =>
    obtain ⟨empty, -⟩ := List.append_eq_nil_iff.1 whole
    have cut : Frame.split session.limit session.buffer = .ok none := by rw [empty]; rfl
    simp only [cut]
    exact idle cut
  | cons frame rest =>
    have mem : frame ∈ frames := by simp [parts]
    rcases Frame.split_of_prefix (complete frame mem) whole with cut | ⟨after, cut, buffer⟩
    · simp only [cut]
      exact idle cut
    · simp only [cut]
      refine Standing.takeMessage parts ?_ ongoing served sound (understood frame mem)
      rw [heard', buffer]
      simp

end Between

theorem Standing.step {handler : Handler σ} {environment : Environment ω} {now : Nat}
    {outside outside' : ω} {session' : Session σ}
    (complete : ∀ frame ∈ frames, Frame.IsComplete session.limit frame)
    (understood : ∀ frame ∈ frames, ∀ reason, Message.decode frame ≠ .error (.malformed reason))
    (within : heard <+: frames.flatten) (h : session.Standing frames heard turns)
    (steps : session.step handler environment now .quiet outside = some (outside', session')) :
    session'.Standing frames heard (turns ++ (session.turn? now).toList) := by
  cases h with
  | between done rest parts heard ongoing served sound phase =>
    rcases phase with (ready | settled) | ⟨idle, -⟩
    · have turn : session.turn? now = none := by simp [turn?, ready]
      simp only [Session.step, ready] at steps
      cases steps
      rw [turn, Option.toList_none, List.append_nil]
      exact .next complete understood within parts heard ongoing served sound
    · have turn : session.turn? now = none := by simp [turn?, settled]
      simp only [Session.step, settled] at steps
      cases steps
      rw [turn, Option.toList_none, List.append_nil]
      exact .between done rest parts heard ongoing served sound (.inl (.inl rfl))
    · simp [Session.step, idle] at steps
  | @during done rest frame message task earlier current sent block parts heard ongoing served
      decoded serving turns written sound phase =>
    have goesOn := step_goesOn serving sound phase steps
    rw [turns, List.append_assoc]
    cases goesOn with
    | further serving' sound' written' =>
      refine .during done rest parts heard ongoing served decoded serving' rfl ?_ sound' rfl
      rw [← List.append_assoc, ← written]
      exact written'
    | complete serves sound' written' =>
      have continues : ¬IsUnbind (Message.decode frame) := by
        rw [decoded, isUnbind_ok]
        intro unbind
        have expects := serving.response
        rw [unbind] at expects
        cases expects
      rw [← decoded] at serves
      refine .done parts heard ongoing continues served serves rfl ?_ sound' (.inr rfl)
      rw [← List.append_assoc, ← written]
      exact written'
  | after done rest parts ongoing last served phase =>
    rcases phase with settled | ⟨result, ended⟩
    · have turn : session.turn? now = none := by simp [turn?, settled]
      simp only [Session.step, settled] at steps
      cases steps
      rw [turn, Option.toList_none, List.append_nil]
      refine .after done rest parts ongoing last ?_ (.inr ⟨_, rfl⟩)
      rwa [follow_written]
    · simp [Session.step, ended] at steps

theorem Standing.move {handler : Handler σ} {environment : Environment ω}
    {meddles : ω → ω → Prop} {turn : Option Turn} {wakes : Nat} {state next : ω × Session σ}
    (moved : Move handler environment meddles octets turn wakes state next)
    (complete : ∀ frame ∈ frames, Frame.IsComplete state.2.limit frame)
    (understood : ∀ frame ∈ frames, ∀ reason, Message.decode frame ≠ .error (.malformed reason))
    (within : heard ++ octets <+: frames.flatten) (h : state.2.Standing frames heard turns) :
    next.2.Standing frames (heard ++ octets) (turns ++ turn.toList) := by
  cases moved with
  | still => rwa [List.append_nil, Option.toList_none, List.append_nil]
  | hear outside some reads =>
    rw [Option.toList_none, List.append_nil]
    exact h.receive some reads
  | step steps =>
    rw [List.append_nil] at within ⊢
    exact h.step complete understood within steps
  | wake outside waits =>
    rw [List.append_nil, Option.toList_none, List.append_nil]
    exact h.wake waits

def Stands (limit : Nat) (frames : List Octets) (heard : Octets) (turns : List Turn) (_ : Nat)
    (state : ω × Session σ) : Prop :=
  state.2.limit = limit ∧ (heard <+: frames.flatten → state.2.Standing frames heard turns)

theorem standing_start {limit : Nat} {memory : σ} :
    (start limit memory).Standing frames [] [] :=
  .between [] frames rfl rfl (List.forall_mem_nil _) .nil ⟨rfl, rfl, rfl⟩ (.inl (.inl rfl))

theorem Standing.served_of_idle (complete : ∀ frame ∈ frames, Frame.IsComplete session.limit frame)
    (h : session.Standing frames frames.flatten turns) (idle : session.phase = .idle) :
    Served (throughUnbind (frames.map Message.decode)) turns session.written := by
  cases h with
  | between done rest parts heard ongoing served sound phase =>
    have nothing : Frame.split session.limit session.buffer = .ok none := by
      rcases phase with (ready | settled) | ⟨-, nothing⟩
      · cases idle.symm.trans ready
      · cases idle.symm.trans settled
      · exact nothing
    have buffer : session.buffer = rest.flatten := by
      rw [parts, List.flatten_append, List.append_cancel_left_eq] at heard
      exact heard.symm
    cases rest with
    | nil =>
      rw [List.append_nil] at parts
      have none : ∀ one ∈ done.map Message.decode, ¬IsUnbind one := by
        simpa using ongoing
      rw [parts, throughUnbind_of_none none]
      exact served
    | cons frame rest =>
      have whole := (complete frame (by simp [parts])).split rest.flatten
      rw [buffer, List.flatten_cons, whole] at nothing
      cases nothing
  | during done rest parts heard ongoing served decoded serving turns written sound phase =>
    rw [phase] at idle
    cases idle
  | after done rest parts ongoing last served phase =>
    rcases phase with settled | ⟨result, ended⟩
    · cases idle.symm.trans settled
    · cases idle.symm.trans ended

theorem Standing.served_of_ended (h : session.Standing frames heard turns)
    {result : Except ServiceError Unit} (ended : session.phase = .ended result) :
    Served (throughUnbind (frames.map Message.decode)) turns session.written := by
  cases h with
  | between done rest parts heard ongoing served sound phase =>
    rcases phase with (ready | settled) | ⟨idle, -⟩
    · cases ended.symm.trans ready
    · cases ended.symm.trans settled
    · cases ended.symm.trans idle
  | during done rest parts heard ongoing served decoded serving turns written sound phase =>
    rw [phase] at ended
    cases ended
  | @after done rest unbind parts ongoing last served phase =>
    have none : ∀ one ∈ done.map Message.decode, ¬IsUnbind one := by
      simpa using ongoing
    rw [parts, List.map_append, List.map_cons, throughUnbind_of_unbind none last]
    rw [List.map_append] at served
    exact served

end Session

namespace Service

variable {ω σ : Type} {service : Service ω σ} {number : Nat} {frames : List Octets}

section Run

variable (opened : service.session? number = some (.start service.limit service.fresh))
  (quiet : service.signal = .quiet)
  (complete : ∀ frame ∈ frames, Frame.IsComplete service.limit frame)
  (understood : ∀ frame ∈ frames, ∀ reason, Message.decode frame ≠ .error (.malformed reason))

include opened quiet complete understood

/-- The invariant of a calm run. -/
theorem run_standing {events : List Event} (calm : ∀ event ∈ events, event.IsCalm number)
    (within : service.heard number events <+: frames.flatten) :
    (service.run events).signal = .quiet ∧
      ∃ session, (service.run events).session? number = some session ∧
        session.limit = service.limit ∧
        session.Standing frames (service.heard number events) (service.turns number events) := by
  have start : Session.Stands service.limit frames [] [] 0
      (service.outside, .start service.limit service.fresh) :=
    ⟨rfl, fun _ => Session.standing_start⟩
  have keeps {heard : Octets} {turns : List Turn} {wakes : Nat} {octets : Octets}
      {turn : Option Turn} {woken : Nat} {state next : ω × Session σ}
      (held : Session.Stands service.limit frames heard turns wakes state)
      (moved : Session.Move (service.handler number) service.environment (fun _ _ => True) octets
        turn woken state next) :
      Session.Stands service.limit frames (heard ++ octets) (turns ++ turn.toList)
        (wakes + woken) next := by
    obtain ⟨limit, standing⟩ := held
    refine ⟨by rw [moved.limit_eq, limit], fun within => ?_⟩
    have complete' : ∀ frame ∈ frames, Frame.IsComplete state.2.limit frame := by
      rwa [limit]
    have sooner : heard <+: frames.flatten := (List.prefix_append _ _).trans within
    exact (standing sooner).move moved complete' understood within
  obtain ⟨quiet', session, found, limit, standing⟩ :=
    run_of_moves (fun _ _ => True) (fun _ => trivial) (Session.Stands service.limit frames) keeps
      calm (fun _ _ _ _ _ => trivial) quiet opened start
  exact ⟨quiet', session, found, limit, standing within⟩

/-- However the messages come, a session answers them one after the other up to an
unbind: it never gets stuck before, and when it is through, what it has written is
one block of frames for each. -/
theorem served_in_order :
    (∀ events : List Event, (∀ event ∈ events, event.IsCalm number) →
      service.heard number events <+: frames.flatten →
      ∃ more : List Event,
        (∀ event ∈ more, event.IsOwn number ∨ ∃ octets, event = .received number octets) ∧
        service.Delivers number frames.flatten (events ++ more)) ∧
    ∀ events : List Event, (∀ event ∈ events, event.IsCalm number) →
      service.Delivers number frames.flatten events →
      ∃ session, (service.run events).session? number = some session ∧
        Served (throughUnbind (frames.map Message.decode)) (service.turns number events)
          session.written := by
  constructor
  · exact fun events calm within => exists_delivers opened quiet calm within
  · rintro events calm ⟨within, session, found, ends⟩
    obtain ⟨-, session', found', limit, standing⟩ :=
      run_standing opened quiet complete understood calm within
    cases found.symm.trans found'
    refine ⟨session, found, ?_⟩
    rcases ends with ⟨idle, everything⟩ | ⟨result, ended⟩
    · rw [everything] at standing
      rw [← limit] at complete
      exact standing.served_of_idle complete idle
    · exact standing.served_of_ended ended

end Run

/-- A search whose handler sends one entry and crashes, and an unbind; the search
comes in two parts. -/
theorem served_in_order_crash :
    let search : Octets := [0x30, 0x1f, 0x02, 0x01, 0x01, 0x63, 0x1a, 0x04, 0x03, 0x61, 0x3d, 0x31,
      0x0a, 0x01, 0x02, 0x0a, 0x01, 0x00, 0x02, 0x01, 0x00, 0x02, 0x01, 0x00, 0x01, 0x01, 0x00,
      0x87, 0x02, 0x63, 0x6e, 0x30, 0x00]
    let unbind : Octets := [0x30, 0x05, 0x02, 0x01, 0x02, 0x42, 0x00]
    let handler : Handler Unit := {
      search := fun request => do
        Streaming.send { dn := request.base }
        Operation.crash }
    let service : Service Shared Unit := {
      handler, environment := Shared.environment, limit := 100, fresh := ()
      outside := { directory := ⟨[], List.forall_mem_nil _, List.nodup_nil⟩ }
      sessions := [(1, .start 100 ())] }
    let events : List Event := [.stepped 1, .received 1 (search.take 5), .stepped 1,
      .received 1 (search.drop 5 ++ unbind)] ++ List.replicate 6 (.stepped 1)
    ∃ session, (service.run events).session? 1 = some session ∧ session.written.length = 2 ∧
      Served (throughUnbind ([search, unbind].map Message.decode)) (service.turns 1 events)
        session.written := by
  intro search unbind handler service events
  have complete : ∀ frame ∈ [search, unbind], Frame.IsComplete 100 frame := by
    simp only [List.forall_mem_cons]
    exact ⟨rfl, rfl, List.forall_mem_nil _⟩
  have decoded : ∀ frame ∈ [search, unbind], (Message.decode frame).toOption.isSome = true := by
    decide +kernel
  have understood : ∀ frame ∈ [search, unbind], ∀ reason,
      Message.decode frame ≠ .error (.malformed reason) := by
    intro frame mem reason malformed
    have accepted := decoded frame mem
    rw [malformed] at accepted
    cases accepted
  have calm : ∀ event ∈ events, event.IsCalm 1 := by
    simp [events, Event.IsCalm]
  have hears : service.heard 1 events = [search, unbind].flatten := by
    decide +kernel
  have ends : ((service.run events).session? 1).map (fun session => (session.written.length,
      match session.phase with
      | .ended _ => true
      | _ => false)) = some (2, true) := by
    decide +kernel
  obtain ⟨session, found, ends⟩ := Option.map_eq_some_iff.1 ends
  obtain ⟨written, ended⟩ := Prod.mk.inj ends
  have delivers : service.Delivers 1 [search, unbind].flatten events := by
    refine ⟨hears ▸ List.prefix_rfl, session, found, .inr ?_⟩
    split at ended
    · next result phase => exact ⟨result, phase⟩
    · cases ended
  obtain ⟨session', found', served⟩ :=
    (served_in_order rfl rfl complete understood).2 events calm delivers
  cases found.symm.trans found'
  exact ⟨session, found, written, served⟩

end Service

end LdapService

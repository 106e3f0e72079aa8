import LdapService.Proofs.Session.CutOff
import LdapService.Proofs.Session.Blocks

/-!
The entries of one search on their way to the client: one stream, one writer, and a clock.
A handler may try to send as often as it likes, while the clock runs, operations of the
transport fail and the client leaves. An entry is sent, or its frame is written and the
flush fails, or nothing is written; and after the first call that fails, all fail.
-/

namespace LdapService

namespace Writer

inductive Writes (frame : Octets) (writer : Writer) : Except ServiceError Unit → Writer → Prop
  | refused (reason : ServiceError) (closed : writer.isClosed = true) :
      Writes frame writer (.error reason) writer
  | flushed (sound : writer.IsSound) : Writes frame writer (.ok ()) (writer.sent frame)
  | unwritten (reason : ServiceError) {transport : Transport} (open_ : writer.isClosed = false)
      (same : transport.written = writer.transport.written)
      (struck : writer.transport.writeError.isSome = true ∧ transport.writeError = none)
      (waits : transport.flushError = writer.transport.flushError) :
      Writes frame writer (.error reason) { writer with transport, closed := true }
  | unflushed (reason : ServiceError) {transport : Transport} (open_ : writer.isClosed = false)
      (wrote : transport.written = writer.transport.written ++ [frame])
      (struck : writer.transport.flushError.isSome = true ∧ transport.flushError = none) :
      Writes frame writer (.error reason) { writer with transport, closed := true }

theorem write_writes {frame : Octets} (nonempty : frame ≠ []) (writer : Writer) :
    writer.Writes frame (writer.write frame).1 (writer.write frame).2 := by
  cases open_ : writer.isClosed with
  | true =>
    rw [write_of_closed open_]
    exact .refused _ open_
  | false =>
    cases waits : writer.transport.writeError with
    | some error =>
      have failed : transmit frame writer.transport =
          (.error error, { writer.transport with writeError := none }) := by
        simp only [transmit, Transport.write, nonempty, if_false, waits]
      rw [write, open_, if_neg Bool.false_ne_true, failed]
      exact .unwritten _ open_ rfl ⟨by rw [waits]; rfl, rfl⟩ rfl
    | none =>
      cases flushes : writer.transport.flushError with
      | some error =>
        have failed : transmit frame writer.transport =
            (.error error, { (writer.sent frame).transport with flushError := none }) := by
          simp only [transmit, Transport.write, nonempty, if_false, waits, Transport.flush, flushes,
            sent]
        rw [write, open_, if_neg Bool.false_ne_true, failed]
        exact .unflushed _ open_ rfl ⟨by rw [flushes]; rfl, rfl⟩
      | none =>
        have sound : writer.IsSound := ⟨open_, waits, flushes⟩
        rw [sound.write_eq nonempty]
        exact .flushed sound

end Writer

structure Feed where
  now : Nat
  stream : SearchStream
  writer : Writer

namespace Feed

inductive Happening where
  | sends (entry : Entry)
  | elapses (milliseconds : Nat)
  | fails (operation : Transport.Operation) (error : IoError)
  | clientLeaves

structure Call where
  entry : Entry
  before : Feed
  outcome : Except Failure Unit
  after : Feed

def start (id begun : Nat) (request : SearchRequest) (writer : Writer) : Feed :=
  ⟨begun, .ofRequest id begun request, writer⟩

def written (feed : Feed) : List Octets :=
  feed.writer.transport.written

def send (feed : Feed) (entry : Entry) : Call :=
  let sent := feed.stream.send Writer.sink feed.now entry feed.writer
  { entry, before := feed, outcome := sent.1,
    after := { feed with stream := sent.2.1, writer := sent.2.2 } }

def apply (feed : Feed) : Happening → Feed
  | .sends entry => (feed.send entry).after
  | .elapses milliseconds => { feed with now := feed.now + milliseconds }
  | .fails operation error =>
      { feed with writer.transport := feed.writer.transport.fail operation error }
  | .clientLeaves => { feed with writer.peerGone := true }

def call? (feed : Feed) : Happening → Option Call
  | .sends entry => some (feed.send entry)
  | .elapses _ | .fails _ _ | .clientLeaves => none

def run (feed : Feed) : List Happening → Feed
  | [] => feed
  | happening :: rest => (feed.apply happening).run rest

def calls (feed : Feed) : List Happening → List Call
  | [] => []
  | happening :: rest => (feed.call? happening).toList ++ (feed.apply happening).calls rest

theorem calls_sends (feed : Feed) (entry : Entry) (rest : List Happening) :
    feed.calls (.sends entry :: rest) = feed.send entry :: (feed.send entry).after.calls rest :=
  rfl

def refusal? (feed : Feed) : Option Failure :=
  feed.stream.refusal? feed.writer.isClosed feed.now

namespace Call

def isDelivered (call : Call) : Bool := call.outcome.isOk

def isUnflushed (call : Call) : Bool :=
  call.before.writer.transport.flushError.isSome && call.after.writer.transport.flushError.isNone

end Call

inductive Sends (entry : Entry) (feed : Feed) : Except Failure Unit → Feed → Prop
  | refused {failure : Failure} (refuses : feed.refusal? = some failure) :
      Sends entry feed (.error failure) feed
  | delivered (free : feed.refusal? = none) (sound : feed.writer.IsSound) :
      Sends entry feed (.ok ())
        { feed with
          stream.count := feed.stream.count + 1
          writer := feed.writer.sent (feed.stream.frame entry) }
  | unwritten (failure : Failure) {transport : Transport} (free : feed.refusal? = none)
      (same : transport.written = feed.written)
      (waits : transport.flushError = feed.writer.transport.flushError) :
      Sends entry feed (.error failure)
        { feed with writer := { feed.writer with transport, closed := true } }
  | unflushed (failure : Failure) {transport : Transport} (free : feed.refusal? = none)
      (wrote : transport.written = feed.written ++ [feed.stream.frame entry])
      (struck : feed.writer.transport.flushError.isSome = true ∧ transport.flushError = none) :
      Sends entry feed (.error failure)
        { feed with writer := { feed.writer with transport, closed := true } }

theorem send_sends (feed : Feed) (entry : Entry) :
    feed.Sends entry (feed.send entry).outcome (feed.send entry).after := by
  simp only [send, SearchStream.send, Writer.sink]
  cases refuses : feed.stream.refusal? feed.writer.isClosed feed.now with
  | some failure => exact .refused refuses
  | none =>
    have writes := Writer.write_writes (feed.stream.frame_ne_nil entry) feed.writer
    simp only
    generalize feed.writer.write (feed.stream.frame entry) = wrote at writes
    obtain ⟨outcome, writer⟩ := wrote
    cases writes with
    | refused _ closed =>
      rw [SearchStream.refusal?, if_pos closed] at refuses
      cases refuses
    | flushed sound => exact .delivered refuses sound
    | unwritten _ _ same _ waits => exact .unwritten _ refuses same waits
    | unflushed _ _ wrote struck => exact .unflushed _ refuses wrote struck

/-- Nothing is sent now, and nothing will be. -/
def IsSpent (feed : Feed) : Prop :=
  feed.refusal? ≠ none

theorem isSpent_iff {feed : Feed} : feed.IsSpent ↔ feed.writer.isClosed = true ∨
    (0 < feed.stream.sizeLimit ∧ feed.stream.sizeLimit ≤ feed.stream.sent) ∨
      feed.stream.deadline.any (· ≤ feed.now) = true := by
  unfold IsSpent refusal? SearchStream.refusal?
  split
  · next closed => simp [closed]
  · next open_ =>
    split
    · next full => simp [full]
    · next room =>
      split
      · next late => simp [late]
      · next time =>
        simp only [open_, room, time, ne_eq, not_true_eq_false, Bool.false_eq_true, or_false]

theorem isSpent_of_isClosed {feed : Feed} (closed : feed.writer.isClosed = true) : feed.IsSpent :=
  isSpent_iff.2 (.inl closed)

theorem Call.isUnflushed_of_waits {call : Call}
    (waits : call.after.writer.transport.flushError = call.before.writer.transport.flushError) :
    call.isUnflushed = false := by
  rw [isUnflushed, waits]
  cases call.before.writer.transport.flushError <;> rfl

namespace IsSpent

variable {feed : Feed}

theorem send (h : feed.IsSpent) (entry : Entry) :
    (feed.send entry).isDelivered = false ∧ (feed.send entry).after = feed := by
  have sends := feed.send_sends entry
  unfold Call.isDelivered
  generalize (feed.send entry).outcome = outcome, (feed.send entry).after = after at sends
  cases sends with
  | refused => exact ⟨rfl, rfl⟩
  | delivered free => exact absurd free h
  | unwritten _ free => exact absurd free h
  | unflushed _ free => exact absurd free h

theorem apply (h : feed.IsSpent) (happening : Happening) : (feed.apply happening).IsSpent := by
  cases happening with
  | sends entry =>
    rw [Feed.apply, (h.send entry).2]
    exact h
  | elapses milliseconds =>
    refine isSpent_iff.2 ((isSpent_iff.1 h).imp_right (Or.imp_right fun late => ?_))
    obtain ⟨deadline, set, passed⟩ := (Option.any_eq_true _ _).1 late
    refine (Option.any_eq_true _ _).2 ⟨deadline, set, ?_⟩
    exact decide_eq_true (Nat.le_add_right_of_le (of_decide_eq_true passed))
  | fails => exact h
  | clientLeaves => exact isSpent_of_isClosed (Bool.or_true _)

theorem calls (h : feed.IsSpent) (happenings : List Happening) :
    ∀ call ∈ feed.calls happenings, call.isDelivered = false ∧ call.after = call.before := by
  induction happenings generalizing feed with
  | nil => exact List.forall_mem_nil _
  | cons happening rest ih =>
    rw [Feed.calls, List.forall_mem_append]
    refine ⟨fun call mem => ?_, ih (h.apply happening)⟩
    cases happening with
    | sends entry =>
      cases List.mem_singleton.1 mem
      exact h.send entry
    | elapses | fails | clientLeaves => cases mem

theorem filter_calls (h : feed.IsSpent) (happenings : List Happening) :
    (feed.calls happenings).filter Call.isDelivered = [] ∧
      (feed.calls happenings).filter Call.isUnflushed = [] := by
  rw [List.filter_eq_nil_iff, List.filter_eq_nil_iff, ← forall₂_and]
  intro call mem
  obtain ⟨failed, same⟩ := h.calls happenings call mem
  rw [failed, Call.isUnflushed_of_waits (by rw [same])]
  exact ⟨Bool.false_ne_true, Bool.false_ne_true⟩

end IsSpent

/-- After a call that failed, for whatever reason, nothing is sent. -/
theorem isSpent_of_failed {feed : Feed} {entry : Entry}
    (failed : (feed.send entry).isDelivered = false) : (feed.send entry).after.IsSpent := by
  have sends := feed.send_sends entry
  unfold Call.isDelivered at failed
  generalize (feed.send entry).outcome = outcome, (feed.send entry).after = after at sends failed
  cases sends with
  | refused refuses =>
    intro free
    rw [refuses] at free
    cases free
  | delivered => cases failed
  | unwritten => exact isSpent_of_isClosed rfl
  | unflushed => exact isSpent_of_isClosed rfl

/-- What one call comes to: its entry is sent, or its frame is written and not flushed, or
nothing is written. -/
theorem send_cases (feed : Feed) (entry : Entry) :
    let call := feed.send entry
    call.isDelivered = true ∧ call.isUnflushed = false ∧
        call.after.written = feed.written ++ [feed.stream.frame entry] ∧
        call.after.stream.count = feed.stream.count + 1 ∨
      call.isDelivered = false ∧ call.isUnflushed = true ∧
        call.after.written = feed.written ++ [feed.stream.frame entry] ∧
        call.after.stream.count = feed.stream.count ∨
      call.isDelivered = false ∧ call.isUnflushed = false ∧
        call.after.written = feed.written ∧ call.after.stream.count = feed.stream.count := by
  intro call
  have sends : feed.Sends entry call.outcome call.after := feed.send_sends entry
  have parts : call = ⟨entry, feed, call.outcome, call.after⟩ := rfl
  rw [parts]
  generalize call.outcome = outcome, call.after = after at sends
  cases sends with
  | refused => exact .inr (.inr ⟨rfl, Call.isUnflushed_of_waits rfl, rfl, rfl⟩)
  | delivered => exact .inl ⟨rfl, Call.isUnflushed_of_waits rfl, rfl, rfl⟩
  | unwritten _ _ same waits => exact .inr (.inr ⟨rfl, Call.isUnflushed_of_waits waits, same, rfl⟩)
  | unflushed _ _ wrote struck =>
    refine .inr (.inl ⟨rfl, ?_, wrote, rfl⟩)
    simp only [Call.isUnflushed, struck, Option.isNone_none, Bool.and_self]

theorem apply_stream (feed : Feed) (happening : Happening) :
    (feed.apply happening).stream =
      { feed.stream with count := (feed.apply happening).stream.count } := by
  cases happening with
  | sends entry =>
    have sends := feed.send_sends entry
    rw [apply]
    generalize (feed.send entry).outcome = outcome, (feed.send entry).after = after at sends
    cases sends <;> rfl
  | elapses | fails | clientLeaves => rfl

theorem run_stream (feed : Feed) (happenings : List Happening) :
    (feed.run happenings).stream =
      { feed.stream with count := (feed.run happenings).stream.count } := by
  induction happenings generalizing feed with
  | nil => rfl
  | cons happening rest ih =>
    rw [run, ih, apply_stream]

theorem run_append (feed : Feed) (earlier later : List Happening) :
    feed.run (earlier ++ later) = (feed.run earlier).run later := by
  induction earlier generalizing feed with
  | nil => rfl
  | cons happening rest ih => exact ih _

theorem calls_append (feed : Feed) (earlier later : List Happening) :
    feed.calls (earlier ++ later) = feed.calls earlier ++ (feed.run earlier).calls later := by
  induction earlier generalizing feed with
  | nil => rfl
  | cons happening rest ih =>
    rw [List.cons_append, calls, calls, ih, List.append_assoc]
    rfl

theorem exists_send_of_mem {feed : Feed} {happenings : List Happening} {call : Call}
    (mem : call ∈ feed.calls happenings) :
    ∃ earlier entry, call = (feed.run earlier).send entry := by
  induction happenings generalizing feed with
  | nil => cases mem
  | cons happening rest ih =>
    rcases List.mem_append.1 mem with here | later
    · cases happening with
      | sends entry => exact ⟨[], entry, List.mem_singleton.1 here⟩
      | elapses | fails | clientLeaves => cases here
    · obtain ⟨earlier, entry, made⟩ := ih later
      exact ⟨happening :: earlier, entry, made⟩

theorem apply_count (feed : Feed) (happening : Happening) :
    (feed.apply happening).stream.count = feed.stream.count +
      UInt32.ofNat ((feed.call? happening).toList.countP Call.isDelivered) := by
  cases happening with
  | sends entry =>
    rw [apply, call?, Option.toList_some, List.countP_singleton]
    rcases feed.send_cases entry with ⟨delivered, -, -, count⟩ | ⟨failed, -, -, count⟩ |
      ⟨failed, -, -, count⟩
    · rw [count, if_pos delivered]
      rfl
    · rw [count, failed]
      exact (UInt32.add_zero _).symm
    · rw [count, failed]
      exact (UInt32.add_zero _).symm
  | elapses | fails | clientLeaves => exact (UInt32.add_zero _).symm

theorem run_count (feed : Feed) (happenings : List Happening) :
    (feed.run happenings).stream.count = feed.stream.count +
      UInt32.ofNat ((feed.calls happenings).countP Call.isDelivered) := by
  induction happenings generalizing feed with
  | nil => exact (UInt32.add_zero _).symm
  | cons happening rest ih =>
    rw [run, ih, apply_count, calls, List.countP_append, UInt32.ofNat_add, UInt32.add_assoc]

theorem run_sent (feed : Feed) (happenings : List Happening) :
    (feed.run happenings).stream.sent =
      (feed.stream.sent + (feed.calls happenings).countP Call.isDelivered) % 2 ^ 32 := by
  rw [SearchStream.sent, run_count, UInt32.toNat_add, UInt32.toNat_ofNat', Nat.add_mod_mod]
  rfl

def Call.frame (call : Call) : Octets :=
  call.before.stream.frame call.entry

/-- What is written are the frames of the calls that succeeded, and after them those whose
flush failed. -/
theorem run_written (feed : Feed) (happenings : List Happening) :
    (feed.run happenings).written = feed.written ++
      ((feed.calls happenings).filter Call.isDelivered).map Call.frame ++
        ((feed.calls happenings).filter Call.isUnflushed).map Call.frame := by
  induction happenings generalizing feed with
  | nil => simp [run, calls]
  | cons happening rest ih =>
    cases happening with
    | sends entry =>
      have later := ih (feed.send entry).after
      rw [run, apply, later, calls_sends]
      rcases feed.send_cases entry with ⟨delivered, flushed, wrote, -⟩ |
        ⟨failed, unflushed, wrote, -⟩ | ⟨failed, flushed, wrote, -⟩
      · rw [List.filter_cons_of_pos delivered, List.filter_cons_of_neg (by simp [flushed]), wrote]
        simp [Call.frame, send]
      · -- the writer is closed, so nothing comes after the frame
        obtain ⟨delivers, unflushes⟩ := (isSpent_of_failed failed).filter_calls rest
        rw [List.filter_cons_of_neg (by simp [failed]), List.filter_cons_of_pos unflushed, wrote,
          delivers, unflushes]
        simp [Call.frame, send]
      · rw [List.filter_cons_of_neg (by simp [failed]), List.filter_cons_of_neg (by simp [flushed]),
          wrote]
    | elapses | clientLeaves => exact ih _
    | fails operation error =>
      have same : (feed.apply (.fails operation error)).written = feed.written := by
        cases operation <;> rfl
      rw [← same]
      exact ih _

theorem exists_start_send_of_mem {id begun : Nat} {request : SearchRequest} {writer : Writer}
    {happenings : List Happening} {call : Call}
    (mem : call ∈ (start id begun request writer).calls happenings) :
    ∃ (feed : Feed) (entry : Entry), call = feed.send entry ∧
      feed.stream = { SearchStream.ofRequest id begun request with count := feed.stream.count } := by
  obtain ⟨earlier, entry, made⟩ := exists_send_of_mem mem
  exact ⟨_, entry, made, run_stream _ earlier⟩

theorem frame_of_mem {id begun : Nat} {request : SearchRequest} {writer : Writer}
    {happenings : List Happening} {call : Call}
    (mem : call ∈ (start id begun request writer).calls happenings) :
    call.frame = request.frame id call.entry := by
  obtain ⟨feed, entry, rfl, limits⟩ := exists_start_send_of_mem mem
  exact (congrArg (SearchStream.frame · entry) limits).trans rfl

end Feed

end LdapService

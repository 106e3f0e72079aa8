import LdapService.Directory.Shared
import LdapService.Proofs.Session.Answering

/-!
What a session reads, and what its result says of it. The first read that finds the end of the
stream, or fails, is the last one. If it was a failure that is not the client hanging up, the
session keeps it until it ends, and that is its result; nothing else makes a result an error.
-/

namespace LdapService

inductive Read where
  | octets (octets : Octets)
  | endOfStream
  | failed (error : IoError)
  deriving DecidableEq, Repr

namespace Read

def isLast : Read → Bool
  | octets _ => false
  | endOfStream | failed _ => true

def failure? : Read → Option IoError
  | failed error => if error.isHangUp then none else some error
  | octets _ | endOfStream => none

def resultOf : Option IoError → Except ServiceError Unit
  | some error => .error (.io error)
  | none => .ok ()

theorem resultOf_eq_error_iff {kept : Option IoError} {error : ServiceError} :
    resultOf kept = .error error ↔ ∃ cause, kept = some cause ∧ error = .io cause := by
  cases kept with
  | none => simp [resultOf]
  | some cause => simp [resultOf, eq_comm]

theorem failure?_failed {error : IoError} (trouble : error.isHangUp = false) :
    (failed error).failure? = some error := by
  rw [failure?, trouble]
  rfl

theorem eq_failed_of_failure? {read : Read} {error : IoError} (h : read.failure? = some error) :
    read = failed error ∧ error.isHangUp = false := by
  unfold failure? at h
  split at h
  · split at h
    · cases h
    · next trouble =>
      cases h
      exact ⟨rfl, Bool.eq_false_of_not_eq_true trouble⟩
  · cases h
  · cases h

theorem failure?_of_not_last {read : Read} (more : read.isLast = false) : read.failure? = none := by
  cases read with
  | octets => rfl
  | endOfStream | failed => cases more

/-- No read follows the last one, and so there is at most one such read. -/
def IsOrderly (reads : List Read) : Prop :=
  reads.Pairwise fun earlier _ => earlier.isLast = false

theorem isOrderly_append {reads : List Read} (orderly : IsOrderly reads)
    (more : reads.any isLast = false) (read : Read) : IsOrderly (reads ++ [read]) := by
  refine List.pairwise_append.2 ⟨orderly, List.pairwise_singleton _ _, fun earlier among _ _ => ?_⟩
  exact Bool.eq_false_of_not_eq_true (List.any_eq_false.1 more earlier among)

theorem findSome?_of_more {reads : List Read} (more : reads.any isLast = false) :
    reads.findSome? failure? = none := by
  refine List.findSome?_eq_none_iff.2 fun read among => failure?_of_not_last ?_
  exact Bool.eq_false_of_not_eq_true (List.any_eq_false.1 more read among)

/-- In reads that are in order a failure is the one that is found. -/
theorem IsOrderly.findSome?_eq_some_iff {reads : List Read} (orderly : IsOrderly reads)
    {error : IoError} :
    reads.findSome? failure? = some error ↔ failed error ∈ reads ∧ error.isHangUp = false := by
  constructor
  · intro found
    obtain ⟨read, among, failure⟩ := List.exists_of_findSome?_eq_some found
    obtain ⟨rfl, trouble⟩ := eq_failed_of_failure? failure
    exact ⟨among, trouble⟩
  · rintro ⟨among, trouble⟩
    induction orderly with
    | nil => cases among
    | @cons first rest earlier _ ih =>
      rw [List.findSome?_cons]
      cases among with
      | head => rw [failure?_failed trouble]
      | tail _ among =>
        rw [failure?_of_not_last (earlier _ among)]
        exact ih among

end Read

theorem Writer.write_peerGone (frame : Octets) (writer : Writer) :
    (writer.write frame).2.peerGone = writer.peerGone := by
  unfold write
  split
  · rfl
  · split
    · rfl
    · rfl

theorem Writer.shutDown_peerGone (writer : Writer) :
    writer.shutDown.peerGone = writer.peerGone := by
  unfold shutDown
  split
  · rfl
  · rfl

namespace Connection

variable {σ : Type}

theorem finish_peerGone (frame : Octets) (connection : Connection σ) :
    (connection.finish frame).2.writer.peerGone = connection.writer.peerGone := by
  rw [finish_writer, Writer.write_peerGone]

theorem reject_peerGone (error : DecodeError) (connection : Connection σ) :
    (connection.reject error).2.writer.peerGone = connection.writer.peerGone := by
  cases error with
  | malformed reason => exact Writer.write_peerGone _ _
  | refused refusal => exact finish_peerGone _ _

theorem conclude_peerGone (task : Task σ) (memory : σ) (outcome : Except Failure Reply)
    (connection : Connection σ) :
    (connection.conclude task memory outcome).2.writer.peerGone = connection.writer.peerGone :=
  finish_peerGone _ _

end Connection

theorem Exchange.answer_peerGone {ω σ : Type} (environment : Environment ω) (now : Nat)
    (question : Streaming.Question) (exchange : Exchange ω σ) :
    (exchange.answer environment now question).2.connection.writer.peerGone =
      exchange.connection.writer.peerGone := by
  cases question with
  | backend | isClosed => rfl
  | send entry =>
    change (exchange.send now entry).2.connection.writer.peerGone = _
    rw [send_writer]
    rcases exchange.stream.send_writer now entry exchange.connection.writer with same | wrote
    · rw [same]
    · rw [wrote, Writer.write_peerGone]

theorem Task.step_peerGone {ω σ : Type} (environment : Environment ω) (now : Nat) (task : Task σ)
    (outside : ω) (connection : Connection σ) :
    (task.step environment now outside connection).2.2.writer.peerGone =
      connection.writer.peerGone := by
  cases program : task.program with
  | done memory outcome =>
    rw [step_of_done program]
    exact Connection.conclude_peerGone _ _ _ _
  | crash memory reason =>
    simp only [step, program]
    exact Connection.conclude_peerGone _ _ _ _
  | wait next => simp only [step, program]
  | ask question next =>
    rw [step_of_ask program]
    exact Exchange.answer_peerGone environment now question _

namespace Session

variable {ω σ : Type} {session session' : Session σ} {handler : Handler σ}
  {environment : Environment ω} {now : Nat} {signal : Signal} {outside outside' : ω}

/-- A session keeps the failure of its stream for its result, and does not wait for octets
when there are none to come. -/
structure KeepsFailure (session : Session σ) : Prop where
  awake : session.phase = .idle → session.connection.writer.peerGone = false
  gone : session.connection.writer.peerGone = false → session.readError = none
  told : ∀ result, session.phase = .ended result → result = Read.resultOf session.readError

structure ReadsNothing (session session' : Session σ) : Prop where
  peerGone : session'.connection.writer.peerGone = session.connection.writer.peerGone
  readError : session'.readError = session.readError
  keeps : session.KeepsFailure → session'.KeepsFailure

theorem ReadsNothing.still (session : Session σ) : session.ReadsNothing session := ⟨rfl, rfl, id⟩

theorem ReadsNothing.of_phase (peerGone : session'.connection.writer.peerGone =
    session.connection.writer.peerGone) (readError : session'.readError = session.readError)
    (phase : session'.phase = session.phase) : session.ReadsNothing session' := by
  refine ⟨peerGone, readError, fun keeps => ⟨?_, ?_, ?_⟩⟩
  · rw [phase, peerGone]
    exact keeps.awake
  · rw [peerGone, readError]
    exact keeps.gone
  · rw [phase, readError]
    exact keeps.told

theorem ReadsNothing.of_goesOn (peerGone : session'.connection.writer.peerGone =
    session.connection.writer.peerGone) (readError : session'.readError = session.readError)
    (awake : session'.phase ≠ .idle) (goesOn : ∀ result, session'.phase ≠ .ended result) :
    session.ReadsNothing session' := by
  refine ⟨peerGone, readError, fun keeps => ⟨fun idle => absurd idle awake, ?_, ?_⟩⟩
  · rw [peerGone, readError]
    exact keeps.gone
  · exact fun result ended => absurd ended (goesOn result)

theorem finish_readsNothing {result : Except ServiceError Unit} {connection : Connection σ}
    (peerGone : connection.writer.peerGone = session.connection.writer.peerGone)
    (told : session.KeepsFailure → result = Read.resultOf session.readError) :
    session.ReadsNothing ({ session with connection }.finish result) := by
  have same : ({ session with connection }.finish result).connection.writer.peerGone =
      session.connection.writer.peerGone := (Writer.shutDown_peerGone _).trans peerGone
  refine ⟨same, rfl, fun keeps => ⟨nofun, ?_, fun other ended => ?_⟩⟩
  · rw [same]
    exact keeps.gone
  · cases ended
    exact told keeps

theorem finishRead_eq (session : Session σ) :
    session.finishRead = session.finish (Read.resultOf session.readError) := by
  unfold finishRead
  cases session.readError with
  | none => rfl
  | some error => rfl

theorem finishShutdown_readsNothing
    (present : session.KeepsFailure → session.connection.writer.peerGone = false) :
    session.ReadsNothing session.finishShutdown := by
  refine finish_readsNothing (Writer.write_peerGone _ _) fun keeps => ?_
  rw [keeps.gone (present keeps)]
  rfl

theorem follow_readsNothing {connection : Connection σ} (flow : Flow)
    (peerGone : connection.writer.peerGone = session.connection.writer.peerGone) :
    session.ReadsNothing ({ session with connection }.follow flow) := by
  cases flow with
  | proceed => exact .of_goesOn peerGone rfl nofun nofun
  | close =>
    rw [follow, finishRead_eq]
    exact finish_readsNothing peerGone fun _ => rfl

theorem reject_readsNothing (error : DecodeError) (session : Session σ) :
    session.ReadsNothing (session.reject error) :=
  follow_readsNothing _ (Connection.reject_peerGone error session.connection)

theorem takeMessage_readsNothing (handler : Handler σ) (now : Nat) (frame : Octets)
    (session : Session σ) : session.ReadsNothing (session.takeMessage handler now frame) := by
  unfold takeMessage
  simp only
  split
  · exact follow_readsNothing _ (Connection.reject_peerGone _ _)
  · next message _ =>
    have writer := congrArg Writer.peerGone (Connection.begin_writer handler now message
      { session.connection with stage := .decoding })
    split
    · next begun =>
      rw [begun] at writer
      exact .of_goesOn writer rfl nofun nofun
    · next begun =>
      rw [begun] at writer
      exact .of_goesOn writer rfl nofun nofun

theorem next_readsNothing (handler : Handler σ) (now : Nat) (signal : Signal)
    (session : Session σ) : session.ReadsNothing (session.next handler now signal) := by
  unfold next
  split
  · exact follow_readsNothing .close rfl
  · next present =>
    have present := Bool.eq_false_of_not_eq_true present
    split
    · exact finishShutdown_readsNothing fun _ => present
    · split
      · exact reject_readsNothing _ _
      · exact ⟨rfl, rfl, fun keeps => ⟨fun _ => present, keeps.gone, nofun⟩⟩
      · next frame rest _ =>
        have taken := takeMessage_readsNothing handler now frame { session with buffer := rest }
        exact ⟨taken.peerGone, taken.readError, fun keeps =>
          taken.keeps ⟨keeps.awake, keeps.gone, keeps.told⟩⟩

theorem step_readsNothing
    (steps : session.step handler environment now signal outside = some (outside', session')) :
    session.ReadsNothing session' := by
  unfold step at steps
  split at steps
  · cases steps
    exact next_readsNothing _ _ _ _
  · next idle =>
    split at steps
    · cases steps
    · cases steps
      exact finishShutdown_readsNothing fun keeps => keeps.awake idle
  · next task busy =>
    have same := task.step_peerGone environment now outside session.connection
    split at steps
    · cases steps
    · next stepped =>
      rw [stepped] at same
      cases steps
      exact .of_goesOn same rfl nofun nofun
    · next stepped =>
      rw [stepped] at same
      cases steps
      exact .of_goesOn same rfl nofun nofun
  · cases steps
    exact follow_readsNothing _ rfl
  · cases steps
  · cases steps

theorem advance_readsNothing (handler : Handler σ) (environment : Environment ω) (now : Nat)
    (signal : Signal) (outside : ω) (session : Session σ) :
    session.ReadsNothing (session.advance handler environment now signal outside) := by
  unfold advance
  cases steps : session.step handler environment now signal outside with
  | none => exact .still session
  | some next => exact step_readsNothing steps

theorem failTransport_readsNothing (operation : Transport.Operation) (error : IoError)
    (session : Session σ) : session.ReadsNothing (session.failTransport operation error) :=
  .of_phase rfl rfl rfl

theorem wake_readsNothing (session : Session σ) : session.ReadsNothing session.wake := by
  unfold wake
  split
  · exact .of_goesOn rfl rfl nofun nofun
  · exact .still session

theorem drop_readsNothing (session : Session σ) : session.ReadsNothing session.drop := by
  unfold drop
  split
  · exact .still session
  · exact .still session
  · exact .of_goesOn rfl rfl nofun nofun

def take (session : Session σ) : Read → Session σ
  | .octets octets => session.receive octets
  | .endOfStream => session.hangUp
  | .failed error => session.readFailed error

theorem take_of_not_reading (still : session.isReading = false) (read : Read) :
    session.take read = session := by
  cases read with
  | octets octets => simp [take, receive, still]
  | endOfStream => simp [take, hangUp, still]
  | failed error => simp [take, readFailed, still]

/-- What all reads so far have made of a session. -/
structure HasRead (reads : List Read) (session : Session σ) : Prop where
  orderly : Read.IsOrderly reads
  peerGone : session.connection.writer.peerGone = reads.any Read.isLast
  readError : session.readError = reads.findSome? Read.failure?
  keeps : session.KeepsFailure

theorem start_hasRead (limit : Nat) (memory : σ) : (start limit memory).HasRead [] where
  orderly := .nil
  peerGone := rfl
  readError := rfl
  keeps := ⟨nofun, fun _ => rfl, nofun⟩

theorem HasRead.of_readsNothing {reads : List Read} (h : session.HasRead reads)
    (nothing : session.ReadsNothing session') : session'.HasRead reads where
  orderly := h.orderly
  peerGone := nothing.peerGone.trans h.peerGone
  readError := nothing.readError.trans h.readError
  keeps := nothing.keeps h.keeps

theorem peerGone_of_reading (reads : session.isReading = true) :
    session.connection.writer.peerGone = false := by
  simp only [isReading, Bool.and_eq_true, Bool.not_eq_true'] at reads
  exact reads.1

theorem take_eq (reads : session.isReading = true) (intact : session.readError = none)
    {read : Read} (real : read ≠ .octets []) :
    ∃ changed : Session σ, session.take read = changed.awaken ∧ changed.phase = session.phase ∧
      changed.connection.writer.peerGone = read.isLast ∧ changed.readError = read.failure? := by
  cases read with
  | octets octets =>
    have some : octets ≠ [] := fun none => real (congrArg Read.octets none)
    refine ⟨{ session with buffer := session.buffer ++ octets }, ?_, rfl,
      peerGone_of_reading reads, intact⟩
    rw [take, receive, if_pos (by simp [reads, some])]
  | endOfStream =>
    refine ⟨session.markPeerGone, ?_, rfl, rfl, intact⟩
    rw [take, hangUp, if_pos reads]
  | failed error =>
    refine ⟨{ session.markPeerGone with
      readError := if error.isHangUp then session.readError else some error }, ?_, rfl, rfl, ?_⟩
    · rw [take, readFailed, if_pos reads]
    · rw [intact]
      rfl

theorem awaken_keepsFailure (going : ∀ result, session.phase ≠ .ended result)
    (gone : session.connection.writer.peerGone = false → session.readError = none) :
    session.awaken.KeepsFailure := by
  unfold awaken
  split
  · exact ⟨nofun, gone, nofun⟩
  · next awake =>
    exact ⟨fun idle => absurd idle awake, gone, fun result ended => absurd ended (going result)⟩

theorem awaken_readError (session : Session σ) : session.awaken.readError = session.readError := by
  unfold awaken
  split
  · rfl
  · rfl

/-- Who is being read has not read the last there is, so the order is kept. -/
theorem HasRead.take {seen : List Read} (h : session.HasRead seen)
    (reads : session.isReading = true) {read : Read} (real : read ≠ .octets []) :
    (session.take read).HasRead (seen ++ [read]) := by
  have present := peerGone_of_reading reads
  have more : seen.any Read.isLast = false := h.peerGone.symm.trans present
  obtain ⟨changed, takes, phase, peerGone, readError⟩ := take_eq reads (h.keeps.gone present) real
  have going (result : Except ServiceError Unit) : changed.phase ≠ .ended result := by
    intro ended
    rw [not_reading_of_ended (phase.symm.trans ended)] at reads
    cases reads
  rw [takes]
  refine ⟨Read.isOrderly_append h.orderly more read, ?_, ?_, awaken_keepsFailure going ?_⟩
  · rw [awaken_connection, peerGone, List.any_append, more]
    simp
  · rw [awaken_readError, readError, List.findSome?_append, Read.findSome?_of_more more]
    simp
  · rw [peerGone, readError]
    exact Read.failure?_of_not_last

theorem HasRead.isCutOff {reads : List Read} (h : session.HasRead reads)
    (through : reads.any Read.isLast = true) : session.IsCutOff := by
  have gone := h.peerGone.trans through
  refine ⟨by rw [Writer.isClosed, gone, Bool.or_true], fun idle => ?_, fun _ => gone⟩
  rw [h.keeps.awake idle] at gone
  cases gone

theorem HasRead.told {reads : List Read} (h : session.HasRead reads)
    {result : Except ServiceError Unit} (ended : session.phase = .ended result) :
    result = Read.resultOf (reads.findSome? Read.failure?) := by
  rw [← h.readError]
  exact h.keeps.told result ended

end Session

namespace Service

variable {ω σ : Type} {number : Nat} {service : Service ω σ} {session : Session σ} {event : Event}

def Event.read? : Event → Option Read
  | .received _ octets => if octets = [] then none else some (.octets octets)
  | .hungUp _ => some .endOfStream
  | .readFailed _ error => some (.failed error)
  | _ => none

def readOf? (number : Nat) (service : Service ω σ) (event : Event) : Option Read :=
  if event.number? = some number ∧ (service.session? number).any Session.isReading then
    event.read?
  else none

def reads (number : Nat) (service : Service ω σ) : List Event → List Read
  | [] => []
  | event :: rest =>
      (service.readOf? number event).toList ++ (service.apply event).reads number rest

theorem reads_append (first second : List Event) :
    service.reads number (first ++ second) =
      service.reads number first ++ (service.run first).reads number second := by
  induction first generalizing service with
  | nil => rfl
  | cons event rest ih => rw [List.cons_append, reads, ih, reads, run_cons, List.append_assoc]

theorem become_of_read {read : Read} (address : event.number? = some number)
    (reads : event.read? = some read) (service : Service ω σ) (session : Session σ) :
    service.become number event session = session.take read := by
  rw [become_of_self address]
  cases event with
  | received other octets =>
    simp only [Event.read?] at reads
    split at reads
    · cases reads
    · cases reads
      rfl
  | hungUp | readFailed =>
    cases reads
    rfl
  | _ => cases reads

theorem become_readsNothing (nothing : event.read? = none) (service : Service ω σ)
    (session : Session σ) : session.ReadsNothing (service.become number event session) := by
  by_cases address : event.number? = some number
  · rw [become_of_self address]
    cases event with
    | received other octets =>
      have empty : octets = [] := by simpa [Event.read?] using nothing
      have same : session.receive octets = session :=
        Session.receive_of_not_reading fun both => both.2 empty
      rw [act, same]
      exact .still session
    | hungUp | readFailed => cases nothing
    | transportFails => exact Session.failTransport_readsNothing _ _ _
    | stepped => exact Session.advance_readsNothing _ _ _ _ _ _
    | woken => exact Session.wake_readsNothing session
    | dropped => exact Session.drop_readsNothing session
    | connected | signalled | elapsed => exact .still session
  · rw [become_of_other address]
    exact .still session

theorem read?_real {read : Read} (reads : event.read? = some read) : read ≠ .octets [] := by
  unfold Event.read? at reads
  split at reads
  · split at reads
    · cases reads
    · next some =>
      cases reads
      exact fun empty => some (Read.octets.inj empty)
  · cases reads
    nofun
  · cases reads
    nofun
  · cases reads

theorem become_hasRead {seen : List Read} (found : service.session? number = some session)
    (h : session.HasRead seen) (event : Event) :
    (service.become number event session).HasRead
      (seen ++ (service.readOf? number event).toList) := by
  have unread (none : service.readOf? number event = none)
      (nothing : session.ReadsNothing (service.become number event session)) :
      (service.become number event session).HasRead
        (seen ++ (service.readOf? number event).toList) := by
    rw [none, Option.toList_none, List.append_nil]
    exact h.of_readsNothing nothing
  by_cases address : event.number? = some number
  · cases offered : event.read? with
    | none =>
      refine unread ?_ (become_readsNothing offered service session)
      rw [readOf?, offered, ite_self]
    | some read =>
      have takes := become_of_read address offered service session
      cases reads : session.isReading with
      | true =>
        have taken : service.readOf? number event = some read := by
          rw [readOf?, if_pos ⟨address, by rw [found]; exact reads⟩, offered]
        rw [taken, takes]
        exact h.take reads (read?_real offered)
      | false =>
        refine unread ?_ ?_
        · rw [readOf?, if_neg]
          rintro ⟨-, attentive⟩
          rw [found, Option.any_some, reads] at attentive
          cases attentive
        · rw [takes, Session.take_of_not_reading reads]
          exact .still session
  · refine unread (if_neg fun both => address both.1) ?_
    rw [become_of_other address]
    exact .still session

theorem run_hasRead {seen : List Read} (found : service.session? number = some session)
    (h : session.HasRead seen) (events : List Event) :
    ∃ session', (service.run events).session? number = some session' ∧
      session'.HasRead (seen ++ service.reads number events) := by
  induction events generalizing service session seen with
  | nil => exact ⟨session, found, by rwa [reads, List.append_nil]⟩
  | cons event rest ih =>
    obtain ⟨session', found', h'⟩ := ih (session?_apply found event) (become_hasRead found h event)
    rw [List.append_assoc] at h'
    exact ⟨session', found', h'⟩

section Opened

variable {limit : Nat} {memory : σ}

theorem hasRead_of_opened (opened : service.session? number = some (.start limit memory))
    {events : List Event} (found : (service.run events).session? number = some session) :
    session.HasRead (service.reads number events) := by
  obtain ⟨session', found', h⟩ := run_hasRead opened (Session.start_hasRead limit memory) events
  cases found.symm.trans found'
  exact h

theorem result_of_failed (opened : service.session? number = some (.start limit memory))
    {events more : List Event} {cause : IoError}
    (among : .failed cause ∈ service.reads number events) (trouble : cause.isHangUp = false)
    (found : (service.run (events ++ more)).session? number = some session)
    {result : Except ServiceError Unit} (ended : session.phase = .ended result) :
    result = .error (.io cause) := by
  have read := hasRead_of_opened opened found
  have still : .failed cause ∈ service.reads number (events ++ more) := by
    rw [reads_append]
    exact List.mem_append_left _ among
  rw [read.told ended, read.orderly.findSome?_eq_some_iff.2 ⟨still, trouble⟩]
  rfl

/-- A session that has read a failure is cut off, so on a fair schedule it comes to its end. -/
theorem ends_of_failed (opened : service.session? number = some (.start limit memory))
    {events : List Event} {cause : IoError}
    (among : .failed cause ∈ service.reads number events) (trouble : cause.isHangUp = false)
    (found : (service.run events).session? number = some session)
    (kept : session.phase ≠ .dropped) {schedule : Nat → Event} (fair : IsFair number schedule) :
    ∃ count session', ((service.run events).upTo schedule count).session? number = some session' ∧
      session'.phase = .ended (.error (.io cause)) := by
  have through : (service.reads number events).any Read.isLast = true :=
    List.any_eq_true.2 ⟨_, among, rfl⟩
  have cutOff := (hasRead_of_opened opened found).isCutOff through
  obtain ⟨count, session', result, found', ended⟩ := ends_of_fair fair found (.inr cutOff) kept
  refine ⟨count, session', found', ?_⟩
  rw [upTo, ← run_append] at found'
  rw [ended, result_of_failed opened among trouble found' ended]

/-- In every run of a session no read follows the end of its stream, or a read that failed.
The session ends in an error exactly if a read failed, and not for the client hanging up, and
in the error of that read: failures to write, malformed messages and the shutdown of the
server make no error of a result. Nor do they hide one: whatever else happens, from such a
read on the error is the only result that there can be, and left to run, the session comes to
it. -/
theorem result_told_by_reads (opened : service.session? number = some (.start limit memory))
    (events : List Event) :
    Read.IsOrderly (service.reads number events) ∧
    (∀ session result, (service.run events).session? number = some session →
      session.phase = .ended result → ∀ error, result = .error error ↔
        ∃ cause, .failed cause ∈ service.reads number events ∧ cause.isHangUp = false ∧
          error = .io cause) ∧
    ∀ cause, .failed cause ∈ service.reads number events → cause.isHangUp = false →
      (∀ more session result, (service.run (events ++ more)).session? number = some session →
        session.phase = .ended result → result = .error (.io cause)) ∧
      ∀ session, (service.run events).session? number = some session → session.phase ≠ .dropped →
        ∀ schedule, IsFair number schedule → ∃ count session',
          ((service.run events).upTo schedule count).session? number = some session' ∧
            session'.phase = .ended (.error (.io cause)) := by
  obtain ⟨session, found, read⟩ := run_hasRead opened (Session.start_hasRead limit memory) events
  refine ⟨read.orderly, ?_, fun cause among trouble => ⟨?_, ?_⟩⟩
  · intro session result found ended error
    have read := hasRead_of_opened opened found
    rw [read.told ended, Read.resultOf_eq_error_iff]
    simp only [read.orderly.findSome?_eq_some_iff, and_assoc]
  · exact fun more session result found ended =>
      result_of_failed opened among trouble found ended
  · exact fun session found kept schedule fair =>
      ends_of_failed opened among trouble found kept fair

end Opened

/-- The read under a search times out. More octets are offered, a write would fail too and the
server shuts down before the handler goes on; the result is still that of the read. -/
theorem result_told_by_reads_search :
    let search : Octets := [0x30, 0x1f, 0x02, 0x01, 0x01, 0x63, 0x1a, 0x04, 0x03, 0x61, 0x3d, 0x31,
      0x0a, 0x01, 0x02, 0x0a, 0x01, 0x00, 0x02, 0x01, 0x00, 0x02, 0x01, 0x00, 0x01, 0x01, 0x00,
      0x87, 0x02, 0x63, 0x6e, 0x30, 0x00]
    let broken : Octets := [0x04, 0x00]
    let timeout : IoError := ⟨.timedOut, "timed out"⟩
    let handler : Handler Unit := {
      search := fun request => do
        Operation.wait
        Streaming.send { dn := request.base } }
    let service : Service Shared Unit := {
      handler, environment := Shared.environment, limit := 100, fresh := ()
      outside := { directory := ⟨[], List.forall_mem_nil _, List.nodup_nil⟩ }
      sessions := [(1, .start 100 ())] }
    let events : List Event := [.stepped 1, .received 1 search, .stepped 1, .readFailed 1 timeout,
      .received 1 broken, .hungUp 1]
    let more : List Event := [.transportFails 1 .write ⟨.other, "disk full"⟩, .signalled .shutdown,
      .woken 1, .stepped 1, .stepped 1, .stepped 1, .stepped 1]
    let schedule (count : Nat) : Event := if count % 2 = 0 then .stepped 1 else .woken 1
    service.reads 1 events = [.octets search, .failed timeout] ∧
      (∃ session, (service.run (events ++ more)).session? 1 = some session ∧
        session.phase = .ended (.error (.io timeout))) ∧
      ∃ count session, ((service.run events).upTo schedule count).session? 1 = some session ∧
        session.phase = .ended (.error (.io timeout)) := by
  intro search broken timeout handler service events more schedule
  have reads : service.reads 1 events = [.octets search, .failed timeout] := by decide +kernel
  have among : .failed timeout ∈ service.reads 1 events := by
    rw [reads]
    exact List.mem_cons_of_mem _ (List.mem_singleton_self _)
  obtain ⟨-, -, tells⟩ := @result_told_by_reads _ _ 1 service 100 () rfl events
  obtain ⟨surely, reaches⟩ := tells timeout among (by decide +kernel)
  refine ⟨reads, ?_, ?_⟩
  · have ends : ((service.run (events ++ more)).session? 1).map (fun session =>
        match session.phase with
        | .ended _ => true
        | _ => false) = some true := by
      decide +kernel
    obtain ⟨session, found, ends⟩ := Option.map_eq_some_iff.1 ends
    obtain ⟨result, ended⟩ : ∃ result, session.phase = .ended result := by
      split at ends
      · next result phase => exact ⟨result, phase⟩
      · cases ends
    rw [surely more session result found ended] at ended
    exact ⟨session, found, ended⟩
  · have waiting : ((service.run events).session? 1).map Session.isWaiting = some true := by
      decide +kernel
    obtain ⟨session, found, waits⟩ := Option.map_eq_some_iff.1 waiting
    obtain ⟨task, -, busy, -⟩ := Session.exists_of_waiting waits
    have kept : session.phase ≠ .dropped := by
      rw [busy]
      nofun
    exact reaches session found kept schedule (isFair_alternating 1)

/-- A stream is read as long as the dispatch of an unbind has not been noticed. -/
example :
    let unbind : Octets := [0x30, 0x05, 0x02, 0x01, 0x01, 0x42, 0x00]
    let timeout : IoError := ⟨.timedOut, "timed out"⟩
    let service : Service Shared Unit := {
      handler := ({} : Handler Unit), environment := Shared.environment, limit := 100, fresh := ()
      outside := { directory := ⟨[], List.forall_mem_nil _, List.nodup_nil⟩ }
      sessions := [(1, .start 100 ())] }
    service.reads 1 [.stepped 1, .received 1 (unbind ++ unbind), .stepped 1, .received 1 unbind,
      .readFailed 1 timeout, .stepped 1, .hungUp 1] =
        [.octets (unbind ++ unbind), .octets unbind, .failed timeout] := by
  decide +kernel

end Service

end LdapService

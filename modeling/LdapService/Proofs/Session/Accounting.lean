import Mathlib.Algebra.BigOperators.Group.List.Basic
import Mathlib.Algebra.Ring.Int.Defs
import LdapService.Directory.Shared
import LdapService.Proofs.Session.Answering

/-!
The metrics of a session that has ended account for all that it did: each is the number
of what happened under its name, and as long as the transport lasts the answers that were
written are as many as the operations and refusals that were counted.
-/

namespace LdapService

theorem sum_count_eq_length {α : Type} [DecidableEq α] {all : List α} (nodup : all.Nodup)
    (complete : ∀ one, one ∈ all) (list : List α) :
    (all.map fun one => (list.count one : Int)).sum = list.length := by
  induction list with
  | nil => simp
  | cons first rest ih =>
    have once : all.count first = 1 := List.count_eq_one_of_mem nodup (complete first)
    have single : (all.map fun one => if one = first then (1 : Int) else 0).sum = 1 := by
      simp [List.sum_map_ite_eq, once]
    have each (one : α) : ((first :: rest).count one : Int) =
        rest.count one + if one = first then 1 else 0 := by
      by_cases same : one = first
      · simp [same]
      · simp [same, Ne.symm same]
    simp only [each, List.sum_map_add, ih, single, List.length_cons]
    rfl

namespace Note

def operation? : Note → Option (RequestKind × ResultCode)
  | operation kind code => some (kind, code)
  | _ => none

theorem zip_kinds_codes (notes : List Note) :
    (notes.filterMap kind?).zip (notes.filterMap code?) = notes.filterMap operation? := by
  induction notes with
  | nil => rfl
  | cons first rest ih =>
    cases first with
    | operation kind code => exact congrArg ((kind, code) :: ·) ih
    | opened | closed | entry | refused | malformed => exact ih

theorem length_codes (notes : List Note) :
    (notes.filterMap code?).length = (notes.filterMap kind?).length := by
  rw [List.length_filterMap_eq_countP, List.length_filterMap_eq_countP]
  congr 1
  funext note
  cases note with
  | operation | opened | closed | entry | refused | malformed => rfl

theorem count_operation (kind : RequestKind) (code : ResultCode) (notes : List Note) :
    notes.count (.operation kind code) = (notes.filterMap operation?).count (kind, code) := by
  rw [List.count_filterMap, List.count]
  congr 1
  funext note
  cases note with
  | operation kind' code' => simp [operation?]
  | opened | closed | entry | refused | malformed => rfl

theorem countP_kind (kind : RequestKind) (notes : List Note) :
    (notes.countP fun note => note.kind? = some kind) = (notes.filterMap kind?).count kind := by
  rw [List.count_filterMap]
  congr 1
  funext note
  exact (Bool.beq_eq_decide_eq _ _).symm

def resultOf? (kind : RequestKind) : Note → Option ResultCode
  | operation other code => if other = kind then some code else none
  | _ => none

theorem sum_results (kind : RequestKind) (notes : List Note) :
    (ResultCode.all.map fun code => (notes.count (.operation kind code) : Int)).sum =
      (notes.filterMap kind?).count kind := by
  have each (code : ResultCode) :
      notes.count (.operation kind code) = (notes.filterMap (resultOf? kind)).count code := by
    rw [List.count_filterMap, List.count]
    congr 1
    funext note
    cases note with
    | operation kind' code' =>
      by_cases same : kind' = kind
      · simp [resultOf?, same]
      · simp [resultOf?, same]
    | opened | closed | entry | refused | malformed => rfl
  have all : (notes.filterMap (resultOf? kind)).length = (notes.filterMap kind?).count kind := by
    rw [List.length_filterMap_eq_countP, List.count_filterMap]
    congr 1
    funext note
    cases note with
    | operation kind' code' =>
      by_cases same : kind' = kind
      · simp [resultOf?, kind?, same]
      · simp [resultOf?, kind?, same]
    | opened | closed | entry | refused | malformed => rfl
  simp only [each]
  rw [sum_count_eq_length (by decide) ResultCode.mem_all, all]

end Note

namespace Reading

def dispatched (readings : List Reading) : List RequestKind := readings.filterMap dispatched?

theorem not_dispatched {kind : RequestKind} (unanswered : kind.response? = none)
    (readings : List Reading) : kind ∉ dispatched readings := by
  rw [dispatched, List.mem_filterMap]
  rintro ⟨reading, -, same⟩
  unfold dispatched? at same
  split at same
  · split at same
    · next answered =>
      cases same
      simp [unanswered] at answered
    · cases same
  · cases same

end Reading

def Turn.codes (turns : List Turn) : List ResultCode := turns.filterMap Turn.code?

def Observation.allOperations (observed : List Observation) : Int :=
  (RequestKind.all.map fun kind =>
    (ResultCode.all.map fun code => total (operations kind code) observed).sum).sum

open Observation

/-- What is observed of a session from its opening to its end agrees with all that it has
read and with all that its handler has done. -/
structure Balances (readings : List Reading) (turns : List Turn) (observed : List Observation) :
    Prop where
  sessions : total "ldap_sessions_total" observed = 1
  active : total "ldap_sessions_active" observed = 0
  ended : (Turn.codes turns).length = (Reading.dispatched readings).length
  operations : ∀ kind code, total (operations kind code) observed =
    ((Reading.dispatched readings).zip (Turn.codes turns)).count (kind, code)
  results : ∀ kind,
    (ResultCode.all.map fun code => total (Observation.operations kind code) observed).sum =
      (Reading.dispatched readings).count kind
  durations : ∀ kind, total (durations kind) observed = (Reading.dispatched readings).count kind
  unanswered : ∀ kind : RequestKind, kind.response? = none →
    total (Observation.durations kind) observed = 0 ∧
      ∀ code, total (Observation.operations kind code) observed = 0
  entries : total "ldap_search_entries_total" observed = turns.countP Turn.isDelivery
  refused : total (decodeErrors "unsupported") observed = readings.countP Reading.isRefused
  malformed : total (decodeErrors "malformed") observed = readings.countP Reading.isMalformed

theorem Balances.allOperations {readings : List Reading} {turns : List Turn}
    {observed : List Observation} (h : Balances readings turns observed) :
    allOperations observed = (Turn.codes turns).length := by
  rw [Observation.allOperations]
  simp only [h.results]
  rw [sum_count_eq_length (by decide) RequestKind.mem_all, h.ended]

theorem Agrees.balances {readings : List Reading} {turns : List Turn} {notes : List Note}
    (h : Agrees none readings turns notes none) :
    Balances readings turns ((Note.opened :: notes ++ [Note.closed]).map Note.observation) := by
  have kinds : Reading.dispatched readings = notes.filterMap Note.kind? := by
    simpa [Reading.dispatched] using h.kinds
  have codes : Turn.codes turns = notes.filterMap Note.code? := h.codes.symm
  have zipped : (Reading.dispatched readings).zip (Turn.codes turns) =
      notes.filterMap Note.operation? := by
    rw [kinds, codes, Note.zip_kinds_codes]
  have operations (kind : RequestKind) (code : ResultCode) :
      total (Observation.operations kind code)
        ((Note.opened :: notes ++ [Note.closed]).map Note.observation) =
        notes.count (.operation kind code) := by
    rw [total_operations]
    simp
  have durations (kind : RequestKind) :
      total (Observation.durations kind) ((Note.opened :: notes ++ [Note.closed]).map Note.observation) =
        (Reading.dispatched readings).count kind := by
    rw [total_durations, kinds, ← Note.countP_kind]
    simp [Note.kind?]
  have results (kind : RequestKind) := Note.sum_results kind notes
  refine ⟨?_, ?_, ?_, ?_, ?_, durations, ?_, ?_, ?_, ?_⟩
  · rw [total_sessions]
    simp [h.inside]
  · rw [total_active]
    simp [h.inside]
  · rw [codes, kinds, Note.length_codes]
  · intro kind code
    rw [operations, zipped, Note.count_operation]
  · intro kind
    simp only [operations, results, kinds]
  · intro kind unanswered
    have none := Reading.not_dispatched unanswered readings
    refine ⟨?_, fun code => ?_⟩
    · rw [durations, List.count_eq_zero.2 none]
      rfl
    · rw [operations, Note.count_operation, ← zipped,
        List.count_eq_zero.2 fun mem => none (List.of_mem_zip mem).1]
      rfl
  · rw [total_entries, ← h.entries]
    simp
  · rw [total_refused, ← h.refused]
    simp
  · rw [total_malformed, ← h.malformed]
    simp

theorem Session.ended_of_malformed {ω σ : Type} {session : Session σ} {signal : Signal}
    {reason : String} (reads : session.reading? signal = some (.error (.malformed reason)))
    (handler : Handler σ) (environment : Environment ω) (now : Nat) (outside : ω) :
    ∃ result,
      (session.advance handler environment now signal outside).phase = .ended result := by
  unfold reading? at reads
  split at reads
  · next ready =>
    split at reads
    · cases reads
    · next goes =>
      simp only [Bool.or_eq_true, decide_eq_true_eq, not_or, Bool.not_eq_true] at goes
      simp only [advance, step, ready, next, goes, Bool.false_eq_true, if_false, Option.elim_some]
      cases cut : Frame.split session.limit session.buffer with
      | error cause => exact ⟨_, rfl⟩
      | ok whole =>
        cases whole with
        | none =>
          rw [cut] at reads
          cases reads
        | some whole =>
          rw [cut] at reads
          simp only [takeMessage, Option.some.inj reads]
          exact ⟨_, rfl⟩
  · cases reads

namespace Service

variable {ω σ : Type} {number : Nat} {service : Service ω σ} {session : Session σ}
  {events : List Event}

inductive EndsOnMalformed (number : Nat) : Service ω σ → List Event → Prop
  | now {service : Service ω σ} {event : Event} {reason : String} {session : Session σ}
      {result : Except ServiceError Unit} (rest : List Event)
      (reads : service.readingOf? number event = some (.error (.malformed reason)))
      (found : (service.apply event).session? number = some session)
      (ended : session.phase = .ended result) : EndsOnMalformed number service (event :: rest)
  | later {service : Service ω σ} (event : Event) {rest : List Event}
      (ends : EndsOnMalformed number (service.apply event) rest) :
      EndsOnMalformed number service (event :: rest)

theorem count_malformed (found : service.session? number = some session) (events : List Event) :
    service.EndsOnMalformed number events ∧
        (service.readings number events).countP Reading.isMalformed = 1 ∨
      ¬service.EndsOnMalformed number events ∧
        (service.readings number events).countP Reading.isMalformed = 0 := by
  induction events generalizing service session with
  | nil => exact .inr ⟨nofun, rfl⟩
  | cons event rest ih =>
    have next := session?_apply found event
    rw [readings, List.countP_append]
    by_cases malformed : ∃ reason,
        service.readingOf? number event = some (.error (.malformed reason))
    · obtain ⟨reason, reads⟩ := malformed
      have stepped : event = .stepped number := by
        by_contra other
        rw [readingOf?_of_ne other] at reads
        cases reads
      subst stepped
      have ended := reads
      rw [readingOf?_stepped found] at ended
      obtain ⟨result, ended⟩ := Session.ended_of_malformed ended (service.handler number)
        service.environment service.now service.outside
      rw [become_of_self rfl] at next
      have finished : (service.act number session (.stepped number)).closing ≠ [] := by
        simp [Session.closing, act, ended]
      obtain ⟨nothing, -⟩ := run_over next finished rest
      rw [reads, nothing]
      exact .inl ⟨.now rest reads next ended, rfl⟩
    · have none : (service.readingOf? number event).toList.countP Reading.isMalformed = 0 := by
        rw [List.countP_eq_zero]
        intro reading reads reads'
        obtain ⟨reason, rfl⟩ := Reading.isMalformed_iff.1 reads'
        exact malformed ⟨reason, Option.mem_toList.1 reads⟩
      rw [none, Nat.zero_add]
      rcases ih next with ⟨ends, one⟩ | ⟨goes, zero⟩
      · exact .inl ⟨.later event ends, one⟩
      · refine .inr ⟨fun ends => ?_, zero⟩
        cases ends with
        | now _ reads => exact malformed ⟨_, reads⟩
        | later _ ends => exact goes ends

/-- Whatever its handler and its transport did, a session that has ended is counted as
opened and closed, each operation that was dispatched under the code that its handler
ended it with, each entry that could be sent, each message that was refused, and the
malformed one that it ended on, if it did. Its answers are as many as the operations and
the refused messages, unless the transport was lost before the last of them. -/
theorem metrics_account {limit : Nat} {memory : σ} {result : Except ServiceError Unit}
    (opened : service.session? number = some (.start limit memory))
    (found : (service.run events).session? number = some session)
    (ended : session.phase = .ended result) :
    let observed := session.connection.observed
    Balances (service.readings number events) (service.turns number events) observed ∧
      (service.EndsOnMalformed number events → total (decodeErrors "malformed") observed = 1) ∧
      (¬service.EndsOnMalformed number events → total (decodeErrors "malformed") observed = 0) ∧
      (service.answers number events).Sublist session.written ∧
      (¬service.LosesAnswer number events →
        ((service.answers number events).length : Int) =
          allOperations observed + total (decodeErrors "unsupported") observed) := by
  intro observed
  obtain ⟨session', found', agrees⟩ := run_agrees opened rfl events
  cases found.symm.trans found'
  rw [ended] at agrees
  obtain ⟨notes, agrees, posts⟩ := agrees.resolve_left nofun
  have closed : session.closing = [.closed] := by rw [Session.closing, ended]
  have idle : session.underWay? = none := by rw [Session.underWay?, ended]
  have balances : Balances (service.readings number events) (service.turns number events)
      observed := by
    rw [idle] at agrees
    have all : observed = (Note.opened :: notes ++ [Note.closed]).map Note.observation := by
      rw [Session.Posts, closed] at posts
      exact posts
    rw [all]
    exact agrees.balances
  refine ⟨balances, ?_, ?_, ?_, ?_⟩
  · intro ends
    obtain ⟨-, one⟩ := (count_malformed opened events).resolve_right fun goes => goes.1 ends
    rw [balances.malformed, one]
    rfl
  · intro goes
    obtain ⟨-, zero⟩ := (count_malformed opened events).resolve_left fun ends => goes ends.1
    rw [balances.malformed, zero]
    rfl
  · obtain ⟨_, frames, found', written, among⟩ := answers_sublist opened events
    cases found.symm.trans found'
    rw [written]
    exact among
  · intro safe
    rw [length_answers opened (.inr rfl) safe, balances.allOperations, balances.refused,
      answersDue, Turn.codes, List.length_filterMap_eq_countP]
    push_cast
    rfl

/-- A search whose handler sends an entry and crashes, a message with a tag that no request
has, and octets that are no message. -/
theorem metrics_account_crash :
    let search : Octets := [0x30, 0x1f, 0x02, 0x01, 0x01, 0x63, 0x1a, 0x04, 0x03, 0x61, 0x3d, 0x31,
      0x0a, 0x01, 0x02, 0x0a, 0x01, 0x00, 0x02, 0x01, 0x00, 0x02, 0x01, 0x00, 0x01, 0x01, 0x00,
      0x87, 0x02, 0x63, 0x6e, 0x30, 0x00]
    let unknown : Octets := [0x30, 0x05, 0x02, 0x01, 0x02, 0x59, 0x00]
    let broken : Octets := [0x04, 0x00]
    let handler : Handler Unit := {
      search := fun request => do
        Streaming.send { dn := request.base }
        Operation.crash }
    let service : Service Shared Unit := {
      handler, environment := Shared.environment, limit := 100, fresh := ()
      outside := { directory := ⟨[], List.forall_mem_nil _, List.nodup_nil⟩ }
      sessions := [(1, .start 100 ())] }
    let events : List Event :=
      [.stepped 1, .received 1 (search ++ unknown ++ broken)] ++ List.replicate 6 (.stepped 1)
    ∃ session, (service.run events).session? 1 = some session ∧
      Balances (service.readings 1 events) (service.turns 1 events) session.connection.observed ∧
        allOperations session.connection.observed = 1 ∧
          total (decodeErrors "malformed") session.connection.observed = 1 ∧
            (service.answers 1 events).length = 2 := by
  intro search unknown broken handler service events
  have ends : ((service.run events).session? 1).map (fun session =>
      match session.phase with
      | .ended _ => true
      | _ => false) = some true := by
    decide +kernel
  obtain ⟨session, found, ends⟩ := Option.map_eq_some_iff.1 ends
  obtain ⟨result, ended⟩ : ∃ result, session.phase = .ended result := by
    split at ends
    · next result phase => exact ⟨result, phase⟩
    · cases ends
  obtain ⟨balances, -, -, -, written⟩ := metrics_account rfl found ended
  have operations : allOperations session.connection.observed = 1 := by
    rw [balances.allOperations]
    decide +kernel
  have malformed : total (decodeErrors "malformed") session.connection.observed = 1 := by
    rw [balances.malformed]
    decide +kernel
  have refused : total (decodeErrors "unsupported") session.connection.observed = 1 := by
    rw [balances.refused]
    decide +kernel
  have safe : ¬service.LosesAnswer 1 events :=
    not_losesAnswer_of_isSteady (by decide +kernel)
  refine ⟨session, found, balances, operations, malformed, ?_⟩
  have both := written safe
  rw [operations, refused] at both
  exact Int.ofNat.inj both

end Service

end LdapService

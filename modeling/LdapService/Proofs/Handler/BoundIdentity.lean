import LdapService.Proofs.Directory.Passwords
import LdapService.Proofs.Handler.Questions

/-!
Who a connection speaks for after a run of binds, whatever the directory and
the cache answer. A simple bind of version 3 settles the identity: its own name
when it succeeds and no one when it fails. A bind that is turned away before,
for its version or for its mechanism, leaves the identity as it was. So failed
binds leave no one exactly as long as none of these comes on a bound connection.
-/

namespace LdapService

namespace BindRequest

/-- Refused before the identity is looked at. -/
def IsTurnedAway (request : BindRequest) : Prop :=
  match request.authentication with
  | .simple _ => request.version ≠ 3
  | .sasl _ _ => True

/-- Whom the connection speaks for once the bind has succeeded. -/
def granted (request : BindRequest) : Option String :=
  if request.name = "" then none else some (Dn.normalize request.name)

def Settles (request : BindRequest) (before after : Identity) (outcome : Except Failure Unit) :
    Prop :=
  (request.IsTurnedAway ∧ after = before ∧ ∃ failure, outcome = .error failure) ∨
    (¬request.IsTurnedAway ∧
      match outcome with
      | .ok () => after = ⟨request.granted⟩
      | .error _ => after = .anonymous)

end BindRequest

/-- One bind of a run: the identity before it, its answer, the identity after. -/
structure BindRecord where
  request : BindRequest
  before : Identity
  outcome : Except Failure Unit
  after : Identity

namespace DirectoryService

variable (service : DirectoryService)

def IsAnonymous (identity : Identity) : Prop :=
  identity.bound = none ∧
    service.handler.extended { name := whoAmI } identity =
      .done identity (.ok { value := some [] })

/-- What is promised of a bind: a failed one leaves no one bound, a successful
simple one the name it gave. -/
def KeepsPromise (record : BindRecord) : Prop :=
  match record.outcome with
  | .error _ => service.IsAnonymous record.after
  | .ok () => ∀ password, record.request.authentication = .simple password →
      record.after.bound = record.request.granted

/-- The binds of one connection, each run to its end before the next. -/
def binds {μ : Type} (answer : (question : Backend.Question) → μ → Backend.Answer question × μ) :
    List BindRequest → Identity → μ → List BindRecord
  | [], _, _ => []
  | request :: rest, before, state =>
      match (service.handler.bind request before).run answer state with
      | (.done after outcome, state) =>
          ⟨request, before, outcome, after⟩ :: binds answer rest after state
      | (.crash _, _) | (.waiting _, _) => []

theorem isAnonymous_iff {identity : Identity} :
    service.IsAnonymous identity ↔ identity.bound = none := by
  constructor
  · intro h
    exact h.1
  · intro unbound
    refine ⟨unbound, ?_⟩
    change extended { name := whoAmI } identity = _
    rw [extended_apply, if_pos rfl, Identity.authzId, unbound]
    rfl

theorem checkPassword_meets (name key password : String) (memory : Identity) :
    (service.checkPassword name key password memory).Meets (.free backend)
      fun after _ => after = memory := by
  rw [checkPassword_apply]
  split
  · refine Program.meets_ask.2 ⟨trivial, fun recalled _ => ?_⟩
    split
    · rfl
    · refine Program.meets_ask.2 ⟨trivial, fun answer _ => ?_⟩
      split
      · rfl
      · exact ⟨trivial, fun _ _ => rfl⟩
      · exact ⟨trivial, fun _ _ => rfl⟩
  · exact ⟨trivial, fun _ _ => rfl⟩

theorem simpleBind_meets (request : BindRequest) (password : Octets) (before : Identity)
    (simple : request.authentication = .simple password) :
    (service.simpleBind request.version (if request.name = "" then none else some request.name)
      password before).Meets (.free backend) (request.Settles before) := by
  have away : request.IsTurnedAway ↔ request.version ≠ 3 := by
    rw [BindRequest.IsTurnedAway, simple]
  rw [simpleBind_apply]
  by_cases spoken : request.version = 3
  · rw [if_pos spoken]
    have settled : ¬request.IsTurnedAway := fun turned => away.1 turned spoken
    by_cases unnamed : request.name = ""
    · rw [if_pos unnamed]
      refine .inr ⟨settled, ?_⟩
      simp only [BindRequest.granted, if_pos unnamed, Identity.anonymous]
    · rw [if_neg unnamed]
      simp only
      split
      · exact .inr ⟨settled, rfl⟩
      · split
        · split
          · exact .inr ⟨settled, rfl⟩
          · apply (service.checkPassword_meets _ _ _ _).andThen
            intro memory outcome same
            split
            · refine .inr ⟨settled, ?_⟩
              simp only [BindRequest.granted, if_neg unnamed]
            · exact .inr ⟨settled, same⟩
            · exact .inr ⟨settled, same⟩
        · exact .inr ⟨settled, rfl⟩
  · rw [if_neg spoken]
    exact .inl ⟨away.2 spoken, rfl, _, rfl⟩

theorem bind_meets (request : BindRequest) (before : Identity) :
    (service.handler.bind request before).Meets (.free backend) (request.Settles before) := by
  unfold Handler.bind
  cases method : request.authentication with
  | simple password => exact service.simpleBind_meets request password before method
  | sasl mechanism credentials =>
    refine .inl ⟨?_, rfl, _, rfl⟩
    rw [BindRequest.IsTurnedAway, method]
    trivial

theorem binds_settle {μ : Type}
    (answer : (question : Backend.Question) → μ → Backend.Answer question × μ)
    (requests : List BindRequest) (before : Identity) (state : μ) :
    (service.binds answer requests before state).map BindRecord.request = requests ∧
      ∀ record ∈ service.binds answer requests before state,
        record.request.Settles record.before record.after record.outcome := by
  induction requests generalizing before state with
  | nil => exact ⟨rfl, fun record mem => nomatch mem⟩
  | cons request rest ih =>
    obtain ⟨after, outcome, finish, ran, settles, -⟩ :=
      (service.bind_meets request before).run (Contract.keptBy_free answer) state trivial
    obtain ⟨answered, settle⟩ := ih after finish
    simp only [binds, ran]
    refine ⟨by rw [List.map_cons, answered], ?_⟩
    intro record mem
    rcases List.mem_cons.1 mem with rfl | mem
    · exact settles
    · exact settle record mem

theorem keepsPromise_iff {record : BindRecord}
    (h : record.request.Settles record.before record.after record.outcome) :
    service.KeepsPromise record ↔
      (record.request.IsTurnedAway → record.before = .anonymous) := by
  have unbound : ∀ identity : Identity, identity.bound = none ↔ identity = .anonymous := by
    rintro ⟨bound⟩
    simp [Identity.anonymous]
  obtain ⟨request, before, outcome, after⟩ := record
  simp only at h
  rcases h with ⟨turned, rfl, failure, rfl⟩ | ⟨settled, h⟩
  · simp only [KeepsPromise, isAnonymous_iff, unbound, turned, forall_const]
  · refine iff_of_true ?_ fun turned => absurd turned settled
    rcases outcome with failure | ⟨⟩
    · exact service.isAnonymous_iff.2 ((unbound after).2 h)
    · exact fun _ _ => congrArg Identity.bound h

/-- Every bind of a run is answered, and all of them keep the promise exactly
when those that are turned away come while no one is bound. -/
theorem binds_keepsPromise_iff {μ : Type}
    (answer : (question : Backend.Question) → μ → Backend.Answer question × μ)
    (requests : List BindRequest) (state : μ) :
    (service.binds answer requests .anonymous state).map BindRecord.request = requests ∧
      ((∀ record ∈ service.binds answer requests .anonymous state,
          service.KeepsPromise record) ↔
        ∀ record ∈ service.binds answer requests .anonymous state,
          record.request.IsTurnedAway → record.before = .anonymous) := by
  obtain ⟨answered, settle⟩ := service.binds_settle answer requests .anonymous state
  refine ⟨answered, ?_⟩
  constructor
  · intro kept record mem
    exact (service.keepsPromise_iff (settle record mem)).1 (kept record mem)
  · intro quiet record mem
    exact (service.keepsPromise_iff (settle record mem)).2 (quiet record mem)

/-- A bound connection stays bound through a failed bind of version 2, and
through a failed bind by a mechanism. -/
theorem failed_bind_leaves_bound :
    let directory := Directory.single { dn := "uid=ann", password := some "secret" }
    let service := ofBase "" false
    let bind (version : Nat) (authentication : Authentication) : BindRequest :=
      ⟨version, "uid=ann", authentication⟩
    let settled := bind 3 (.simple (Text.utf8 "secret"))
    ∀ failing ∈ [bind 2 (.simple (Text.utf8 "secret")), bind 3 (.sasl "EXTERNAL" none)],
      ¬∀ record ∈ service.binds Shared.answer [settled, failing] .anonymous { directory },
        service.KeepsPromise record := by
  intro directory service bind settled failing mem kept
  have last : ∀ failing ∈ [bind 2 (.simple (Text.utf8 "secret")), bind 3 (.sasl "EXTERNAL" none)],
      ((service.binds Shared.answer [settled, failing] .anonymous { directory }).getLast?.map
        fun record => (record.outcome.isOk, record.after.bound)) =
          some (false, some "uid=ann") := by
    decide +kernel
  obtain ⟨record, found, seen⟩ := Option.map_eq_some_iff.1 (last failing mem)
  rw [Prod.mk.injEq] at seen
  have promise := kept record (List.mem_of_getLast? found)
  unfold KeepsPromise at promise
  cases answered : record.outcome with
  | ok =>
    rw [answered] at seen
    exact absurd seen.1.symm Bool.false_ne_true
  | error failure =>
    rw [answered] at promise
    have unbound : record.after.bound = none := promise.1
    rw [seen.2] at unbound
    cases unbound

end DirectoryService

end LdapService

import LdapService.Proofs.Handler.Questions
import LdapService.Proofs.Program.Correspondence

/-!
Failures inside the service, before a client hears of them. Handlers that differ in what
their errors and crashes say, and in nothing else, correspond once those are turned into
failures. A directory service hushes the failures of its store: one that answers a bind,
a compare or a search ends it and nothing is told; only the password that a search asks
for to warm the cache may fail without a trace.
-/

namespace LdapService

inductive Trouble where
  | told (failure : Failure)
  | service (error : ServiceError)
  | chain (causes : List String)

namespace Trouble

def failure : Trouble → Failure
  | told failure => failure
  | service error => .ofServiceError error
  | chain causes => .ofChain causes

def IsInternal : Trouble → Prop
  | told _ => False
  | service _ | chain _ => True

theorem failure_of_isInternal {trouble : Trouble} (internal : trouble.IsInternal) :
    trouble.failure = .serverError := by
  cases trouble with
  | told => exact internal.elim
  | service => rfl
  | chain => rfl

/-- The same outcome, or two internal errors. -/
def SameOutcome {α : Type} (outcome outcome' : Except Trouble α) : Prop :=
  outcome = outcome' ∨ ∃ trouble trouble', outcome = .error trouble ∧ outcome' = .error trouble' ∧
    trouble.IsInternal ∧ trouble'.IsInternal

end Trouble

namespace Program

variable {I : Interface} {σ α : Type} {lapse : Lapse I}

def told (program : Program I σ (Except Trouble α)) : Program I σ (Except Failure α) :=
  program.andThen fun memory outcome => .done memory (outcome.mapError Trouble.failure)

def candid (program : Program I σ (Except Failure α)) : Program I σ (Except Trouble α) :=
  program.andThen fun memory outcome => .done memory (outcome.mapError Trouble.told)

theorem told_candid (program : Program I σ (Except Failure α)) : program.candid.told = program := by
  unfold told candid
  induction program with
  | done memory outcome => cases outcome <;> rfl
  | crash => rfl
  | wait next ih => exact congrArg Program.wait ih
  | ask question next ih => exact congrArg (Program.ask question) (funext ih)

theorem Corresponds.told {program other : Program I σ (Except Trouble α)}
    (h : program.Corresponds lapse Trouble.SameOutcome other) :
    program.told.Corresponds lapse Eq other.told := by
  refine h.andThen fun memory outcome outcome' same => .done memory ?_
  rcases same with rfl | ⟨trouble, trouble', rfl, rfl, internal, internal'⟩
  · rfl
  · change Except.error trouble.failure = Except.error trouble'.failure
    rw [Trouble.failure_of_isInternal internal, Trouble.failure_of_isInternal internal']

end Program

/-- The same handlers but for what their internal errors and their crashes say. -/
def Handler.DiffersInTrouble {σ : Type} (first second : Handler σ) : Prop :=
  ∀ request memory, ∃ program other : Program streaming σ (Except Trouble Reply),
    first.perform request memory = program.told ∧ second.perform request memory = other.told ∧
      program.Corresponds Streaming.lapse Trouble.SameOutcome other

theorem Handler.DiffersInTrouble.corresponds {σ : Type} {first second : Handler σ}
    (h : first.DiffersInTrouble second) (request : Request) (memory : σ) :
    (first.perform request memory).Corresponds Streaming.lapse Eq
      (second.perform request memory) := by
  obtain ⟨program, other, performs, performs', same⟩ := h request memory
  rw [performs, performs']
  exact same.told

theorem Handler.differsInTrouble_self {σ : Type} {handler : Handler σ}
    (hushes : ∀ request memory, (handler.perform request memory).Hushes Streaming.lapse) :
    handler.DiffersInTrouble handler := by
  intro request memory
  refine ⟨(handler.perform request memory).candid, (handler.perform request memory).candid,
    (Program.told_candid _).symm, (Program.told_candid _).symm, ?_⟩
  refine (hushes request memory).corresponds.andThen fun memory outcome outcome' same => ?_
  rw [same]
  exact .done memory (.inl rfl)

namespace DirectoryService

open Program

variable (service : DirectoryService)

theorem checkPassword_hushes (name key password : String) (memory : Identity) :
    (service.checkPassword name key password memory).Hushes Backend.lapse := by
  rw [checkPassword_apply]
  split
  · refine hushes_ask.2 ⟨.of_sure fun _ => id, fun recalled => ?_⟩
    split
    · trivial
    · refine hushes_ask.2 ⟨.of_vital rfl memory ?_, fun answer => ?_⟩
      · rintro answer ⟨error, rfl⟩
        rfl
      · split
        · trivial
        · exact ⟨.of_sure fun _ => id, fun _ => trivial⟩
        · exact ⟨.of_sure fun _ => id, fun _ => trivial⟩
  · refine hushes_ask.2 ⟨.of_vital rfl memory ?_, fun _ => trivial⟩
    rintro answer ⟨error, rfl⟩
    rfl

theorem simpleBind_hushes (version : Nat) (name : Option String) (password : Octets)
    (memory : Identity) :
    (service.simpleBind version name password memory).Hushes Backend.lapse := by
  rw [simpleBind_apply]
  split
  · split
    · trivial
    · split
      · trivial
      · split
        · split
          · trivial
          · refine (service.checkPassword_hushes _ _ _ _).andThen ?_ fun _ _ => rfl
            intro memory outcome
            split
            · trivial
            · trivial
            · trivial
        · trivial
  · trivial

theorem warm_hushes (dn : String) (memory : Identity) :
    (service.warm dn memory).Hushes Backend.lapse := by
  rw [warm_apply]
  split
  · refine hushes_ask.2 ⟨.of_spare rfl ?_, fun answer => ?_⟩
    · rintro answer ⟨error, rfl⟩
      rfl
    · split
      · exact ⟨.of_sure fun _ => id, fun _ => trivial⟩
      · trivial
  · trivial

theorem sendMatching_hushes (base : String) (scope : Scope) (filter : Filter)
    (entries : List Entry) (memory : Identity) :
    (service.sendMatching base scope filter entries memory).Hushes Streaming.lapse := by
  induction entries generalizing memory with
  | nil => trivial
  | cons entry rest ih =>
    rw [sendMatching_cons_apply]
    split
    · split
      · trivial
      · refine hushes_ask.2 ⟨.of_sure fun _ => id, fun answer => ?_⟩
        split
        · trivial
        · refine (service.warm_hushes entry.dn memory).toStreaming.andThen ?_ fun _ _ => rfl
          intro memory outcome
          split
          · exact ih memory
          · trivial
      · exact ih memory
    · exact ih memory

theorem search_hushes (request : SearchRequest) (memory : Identity) :
    (service.search request memory).Hushes Streaming.lapse := by
  rw [search_apply]
  split
  · refine hushes_ask.2 ⟨.of_vital rfl memory ?_, fun found => ?_⟩
    · rintro answer ⟨error, rfl⟩
      rfl
    · split
      · trivial
      · trivial
      · refine hushes_ask.2 ⟨.of_vital rfl memory ?_, fun listed => ?_⟩
        · rintro answer ⟨error, rfl⟩
          rfl
        · split
          · trivial
          · exact service.sendMatching_hushes _ _ _ _ memory
  · trivial

theorem compare_hushes (request : CompareRequest) (memory : Identity) :
    (compare request memory).Hushes Backend.lapse := by
  rw [compare_apply]
  refine hushes_ask.2 ⟨.of_vital rfl memory ?_, fun _ => trivial⟩
  rintro answer ⟨error, rfl⟩
  rfl

theorem extended_hushes (request : ExtendedRequest) (memory : Identity) :
    (extended request memory).Hushes Backend.lapse := by
  rw [extended_apply]
  trivial

/-- No request makes anything of what a failure of the store says. -/
theorem perform_hushes (request : Request) (memory : Identity) :
    (service.handler.perform request memory).Hushes Streaming.lapse := by
  cases request with
  | bind request =>
    apply Hushes.map
    apply Hushes.toStreaming
    unfold Handler.bind
    cases request.authentication with
    | simple password => exact service.simpleBind_hushes _ _ _ memory
    | sasl mechanism credentials => trivial
  | search request => exact .map _ (service.search_hushes request memory)
  | compare request =>
    refine (compare_hushes request memory).toStreaming.andThen ?_ fun _ _ => rfl
    intro memory outcome
    cases outcome with
    | ok => trivial
    | error => trivial
  | extended request => exact .map _ (extended_hushes request memory).toStreaming
  | unbind => trivial
  | modify => trivial
  | add => trivial
  | delete => trivial
  | modifyDn => trivial
  | abandon => trivial

end DirectoryService

end LdapService

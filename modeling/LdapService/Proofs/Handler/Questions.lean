import LdapService.Handler.Directory
import LdapService.Proofs.Program.Contract

/-!
The operations of a directory service as programs: what each of them asks, in
which order, and how it goes on from the answers. Everything that is proved of
a service starts from these equations.
-/

namespace LdapService

namespace Backend

variable {σ : Type}

theorem ask_apply (question : Question) (memory : σ) :
    ask question memory = .ask (I := backend) question fun answer => .done memory (.ok answer) :=
  rfl

theorem getEntry_apply (dn : String) (memory : σ) :
    getEntry dn memory = .ask (I := backend) (.getEntry dn) fun answer =>
      .done memory (answer.mapError Failure.ofServiceError) := rfl

theorem getEntry_toStreaming_apply (dn : String) (memory : σ) :
    (getEntry dn).toStreaming memory = .ask (I := streaming) (.backend (.getEntry dn))
      fun answer => .done memory (answer.mapError Failure.ofServiceError) := rfl

theorem listEntries_toStreaming_apply (memory : σ) :
    listEntries.toStreaming memory = .ask (I := streaming) (.backend .listEntries)
      fun answer => .done memory (answer.mapError Failure.ofServiceError) := rfl

theorem verifyPassword_apply (dn password : String) (memory : σ) :
    verifyPassword dn password memory = .ask (I := backend) (.verifyPassword dn password)
      fun answer => .done memory (answer.mapError Failure.ofServiceError) := rfl

end Backend

theorem mapError_ok {α : Type} (value : α) :
    (Except.ok value : Except ServiceError α).mapError Failure.ofServiceError = .ok value := rfl

theorem Streaming.send_apply {σ : Type} (entry : Entry) (memory : σ) :
    Streaming.send entry memory = .ask (I := streaming) (.send entry) fun answer =>
      .done memory answer := rfl

namespace DirectoryService

variable (service : DirectoryService)

theorem simpleBind_apply (version : Nat) (name : Option String) (password : Octets)
    (memory : Identity) :
    service.simpleBind version name password memory =
      if version = 3 then
        match name with
        | none => .done .anonymous (.ok ())
        | some name =>
            if password.isEmpty then
              .done .anonymous
                (.error (.unwillingToPerform "Unauthenticated bind is not allowed"))
            else if Dn.isWithin (Dn.normalize name) service.base then
              match Text.ofUtf8? password with
              | none => .done .anonymous (.error .invalidCredentials)
              | some password =>
                  (service.checkPassword name (Dn.normalize name) password .anonymous).andThen
                    fun memory outcome => match outcome with
                      | .ok true => .done ⟨some (Dn.normalize name)⟩ (.ok ())
                      | .ok false => .done memory (.error .invalidCredentials)
                      | .error failure => .done memory (.error failure)
            else .done .anonymous (.error .invalidCredentials)
      else
        .done memory (.error (.protocolError s!"LDAP version {version} is not supported")) := by
  unfold simpleBind Handler.requireVersion3
  by_cases spoken : version = 3
  · rw [if_pos spoken, if_pos spoken]
    cases name with
    | none => rfl
    | some name =>
      by_cases empty : password.isEmpty
      · simp only [empty, if_true]
        rfl
      · by_cases within : Dn.isWithin (Dn.normalize name) service.base
        · simp only [empty, within, if_true, Bool.false_eq_true, if_false]
          cases Text.ofUtf8? password with
          | none => rfl
          | some password =>
            simp only [Operation.bind_apply, Operation.pure_apply, Operation.set_apply,
              Program.andThen_done]
            congr 1
            funext memory outcome
            rcases outcome with failure | accepted
            · rfl
            · cases accepted <;> rfl
        · simp only [empty, within, Bool.false_eq_true, if_false]
          rfl
  · rw [if_neg spoken, if_neg spoken]
    rfl

theorem checkPassword_apply (name key password : String) (memory : Identity) :
    service.checkPassword name key password memory =
      if service.caches then
        .ask (I := backend) (.recall key password) fun recalled =>
          if recalled = true then .done memory (.ok true)
          else .ask (I := backend) (.verifyPassword name password) fun answer =>
            match answer with
            | .error error => .done memory (.error (.ofServiceError error))
            | .ok true =>
                .ask (I := backend) (.remember key password) fun _ => .done memory (.ok true)
            | .ok false => .ask (I := backend) (.forget key) fun _ => .done memory (.ok false)
      else .ask (I := backend) (.verifyPassword name password) fun answer =>
        .done memory (answer.mapError Failure.ofServiceError) := by
  unfold checkPassword
  by_cases caches : service.caches
  · rw [if_pos caches, if_pos caches, Operation.bind_apply, Backend.ask_apply]
    simp only [Program.andThen_ask, Program.andThen_done]
    congr 1
    funext recalled
    by_cases known : recalled = true
    · simp only [known, if_true]
      rfl
    · simp only [known, Bool.false_eq_true, if_false]
      rw [Operation.bind_apply, Backend.verifyPassword_apply]
      simp only [Program.andThen_ask, Program.andThen_done]
      congr 1
      funext answer
      rcases answer with error | accepted
      · rfl
      · cases accepted <;> rfl
  · rw [if_neg caches, if_neg caches]
    rfl

theorem warm_apply (dn : String) (memory : Identity) :
    service.warm dn memory =
      if service.caches then
        .ask (I := backend) (.password dn) fun answer =>
          match answer with
          | .ok (some password) =>
              .ask (I := backend) (.remember (Dn.normalize dn) password) fun _ =>
                .done memory (.ok ())
          | _ => .done memory (.ok ())
      else .done memory (.ok ()) := by
  unfold warm
  by_cases caches : service.caches
  · rw [if_pos caches, if_pos caches, Operation.bind_apply, Backend.ask_apply]
    simp only [Program.andThen_ask, Program.andThen_done]
    congr 1
    funext answer
    rcases answer with error | password
    · rfl
    · cases password <;> rfl
  · rw [if_neg caches, if_neg caches]
    rfl

/-- An entry out of scope is passed over without a question, and without its
filter being looked at. -/
theorem sendMatching_cons_apply (base : String) (scope : Scope) (filter : Filter) (entry : Entry)
    (rest : List Entry) (memory : Identity) :
    service.sendMatching base scope filter (entry :: rest) memory =
      if inScope (Dn.normalize entry.dn) base scope then
        match filter.evaluate .standard entry.get? with
        | .error failure => .done memory (.error failure)
        | .ok .holds => .ask (I := streaming) (.send entry) fun answer =>
            match answer with
            | .error failure => .done memory (.error failure)
            | .ok _ => ((service.warm entry.dn).toStreaming memory).andThen
                fun memory outcome => match outcome with
                  | .ok () => service.sendMatching base scope filter rest memory
                  | .error failure => .done memory (.error failure)
        | .ok _ => service.sendMatching base scope filter rest memory
      else service.sendMatching base scope filter rest memory := by
  simp only [sendMatching]
  by_cases inside : inScope (Dn.normalize entry.dn) base scope
  · rw [if_pos inside, if_pos inside, Operation.bind_apply, Operation.ofExcept_apply,
      Program.andThen_done]
    rcases filter.evaluate .standard entry.get? with failure | truth
    · rfl
    · cases truth with
      | fails => rfl
      | undefined => rfl
      | holds =>
        simp only [if_true]
        rw [Operation.bind_apply, Streaming.send_apply]
        simp only [Program.andThen_ask, Program.andThen_done]
        congr 1
        funext answer
        rcases answer with failure | sent
        · rfl
        · change (_ >>= _ : Operation streaming Identity Unit) memory = _
          rw [Operation.bind_apply]
          congr 1
          funext memory outcome
          cases outcome <;> rfl
  · rw [if_neg inside, if_neg inside]

theorem search_apply (request : SearchRequest) (memory : Identity) :
    service.search request memory =
      if Dn.isWithin (Dn.normalize request.base) service.base then
        .ask (I := streaming) (.backend (.getEntry (Dn.normalize request.base))) fun found =>
          match found with
          | .error error => .done memory (.error (.ofServiceError error))
          | .ok none => .done memory
              (.error (.noSuchObject s!"No such object: {Dn.normalize request.base}"))
          | .ok (some _) => .ask (I := streaming) (.backend .listEntries) fun listed =>
              match listed with
              | .error error => .done memory (.error (.ofServiceError error))
              | .ok entries => service.sendMatching (Dn.normalize request.base) request.scope
                  request.filter entries memory
      else .done memory
        (.error (.noSuchObject s!"No such object: {Dn.normalize request.base}")) := by
  unfold search
  by_cases within : Dn.isWithin (Dn.normalize request.base) service.base
  · simp only [within, if_true]
    rw [Operation.bind_apply, Backend.getEntry_toStreaming_apply]
    simp only [Program.andThen_ask, Program.andThen_done]
    congr 1
    funext found
    rcases found with error | entry
    · rfl
    · cases entry with
      | none => rfl
      | some entry =>
        simp only [mapError_ok, Option.isNone_some, Bool.false_eq_true, if_false]
        rw [Operation.bind_apply, Backend.listEntries_toStreaming_apply]
        simp only [Program.andThen_ask, Program.andThen_done]
        congr 1
        funext listed
        cases listed <;> rfl
  · simp only [within, Bool.false_eq_true, if_false]
    rfl

def comparison (request : CompareRequest) :
    Except ServiceError (Option Entry) → Except Failure Bool
  | .error error => .error (.ofServiceError error)
  | .ok none => .error (.noSuchObject s!"No such object: {request.dn}")
  | .ok (some entry) =>
      if (entry.get? request.attr).isNone then
        .error ⟨.noSuchAttribute, some s!"{request.dn} has no attribute {request.attr}"⟩
      else
        let filter : Filter := .equality { attr := request.attr, value := request.value }
        (filter.evaluate .standard entry.get?).map fun truth => truth = .holds

theorem compare_apply (request : CompareRequest) (memory : Identity) :
    compare request memory = .ask (I := backend) (.getEntry request.dn) fun answer =>
      .done memory (comparison request answer) := by
  unfold compare
  rw [Operation.bind_apply, Backend.getEntry_apply]
  simp only [Program.andThen_ask, Program.andThen_done]
  congr 1
  funext answer
  rcases answer with error | found
  · rfl
  · cases found with
    | none => rfl
    | some entry =>
      by_cases missing : (entry.get? request.attr).isNone
      · simp only [mapError_ok, comparison, missing, if_true]
        rfl
      · simp only [mapError_ok, comparison, missing, Bool.false_eq_true, if_false]
        rw [Operation.bind_apply, Operation.ofExcept_apply, Program.andThen_done]
        cases Filter.evaluate .standard entry.get?
          (.equality { attr := request.attr, value := request.value }) <;> rfl

theorem perform_compare_apply (request : CompareRequest) (memory : Identity) :
    service.handler.perform (.compare request) memory =
      .ask (I := streaming) (.backend (.getEntry request.dn)) fun answer =>
        .done memory ((comparison request answer).map fun matched =>
          .code (if matched then .compareTrue else .compareFalse)) := by
  change ((compare request).toStreaming >>= _ : Operation streaming Identity Reply) memory = _
  rw [Operation.bind_apply, Operation.toStreaming, compare_apply]
  simp only [Program.mapQuestions, Program.andThen_ask, Program.andThen_done]
  congr 1
  funext answer
  cases comparison request answer <;> rfl

theorem extended_apply (request : ExtendedRequest) (memory : Identity) :
    extended request memory = .done memory
      (if request.name = whoAmI then .ok { value := some (Text.utf8 memory.authzId) }
      else .error (.protocolError s!"Extended operation {request.name} is not supported")) := by
  unfold extended
  by_cases asked : request.name = whoAmI
  · rw [if_pos asked, if_pos asked]
    rfl
  · rw [if_neg asked, if_neg asked]
    rfl

end DirectoryService

end LdapService

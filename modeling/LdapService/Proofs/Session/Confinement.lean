import LdapService.Proofs.Handler.Agreement
import LdapService.Proofs.Session.Serving

/-!
What a client learns of entries outside the base. Binds and searches tell it
nothing: connections to two directories that agree within the base are answered
alike. A compare tells whether there is an entry of any name, so that holds of a
run of messages exactly if it compares no entry outside the base.
-/

namespace LdapService

theorem Directory.vacant_agreesWithin_single {base : String} {record : Record}
    (outside : Dn.isWithin record.key base ≠ true) :
    vacant.AgreesWithin base (single record) := by
  have none : (single record).within base = [] := by
    rw [within, List.filter_eq_nil_iff]
    intro item mem
    obtain rfl := List.mem_singleton.1 mem
    exact outside
  rw [AgreesWithin, none]
  rfl

namespace Connection

variable {ω σ : Type} {handler : Handler σ} {environment : Environment ω} {now : Nat}
  {message : Message} {outside outside' : ω} {connection connection' : Connection σ}

theorem serve_of_proceed (rest : List (Nat × Message))
    (h : connection.handle handler environment now message outside =
      (.proceed, outside', connection')) :
    connection.serve handler environment ((now, message) :: rest) outside =
      connection' :: connection'.serve handler environment rest outside' := by
  rw [serve, h]

theorem serve_of_close (rest : List (Nat × Message))
    (h : connection.handle handler environment now message outside =
      (.close, outside', connection')) :
    connection.serve handler environment ((now, message) :: rest) outside = [connection'] := by
  rw [serve, h]

theorem head?_serve (rest : List (Nat × Message)) :
    (connection.serve handler environment ((now, message) :: rest) outside).head? =
      some (connection.handle handler environment now message outside).2.2 := by
  cases handled : connection.handle handler environment now message outside with
  | mk flow result =>
    obtain ⟨outside', connection'⟩ := result
    cases flow with
    | proceed => rw [serve_of_proceed rest handled, List.head?_cons]
    | close => rw [serve_of_close rest handled, List.head?_cons]

theorem handle_unbind (unbinds : message.request.kind = .unbind) :
    connection.handle handler environment now message outside =
      (.close, outside, connection.close) := by
  unfold handle begin
  simp only [unbinds, RequestKind.response?]
  rfl

end Connection

namespace DirectoryService

variable (service : DirectoryService) {first second : Directory}

/-- No message before the connection ends compares an entry outside the base. -/
def StaysWithin (base : String) (messages : List (Nat × Message)) : Prop :=
  ∀ pair ∈ messages.takeWhile fun pair => pair.2.request.kind ≠ .unbind,
    ∀ request, pair.2.request = .compare request →
      Dn.isWithin (Dn.normalize request.dn) base = true

theorem handle_eq_of_alike (now : Nat) (message : Message) (connection : Connection Identity)
    (alike : Program.Alike Streaming.Question.IsSeen first.contract.toStreaming
      second.contract.toStreaming (service.handler.perform message.request connection.memory)
      (service.handler.perform message.request connection.memory))
    {shared shared' : Shared} (start : shared.Sound first) (start' : shared'.Sound second) :
    ∃ flow finish finish' connection',
      connection.handle service.handler Shared.environment now message shared =
          (flow, finish, connection') ∧
        connection.handle service.handler Shared.environment now message shared' =
          (flow, finish', connection') ∧
        finish.Sound first ∧ finish'.Sound second ∧
        (message.request.kind ≠ .unbind → connection.writer.IsSound →
          flow = .proceed ∧ connection'.writer.IsSound) := by
  apply Connection.handle_alike (Shared.contract_keptBy first) (Shared.contract_keptBy second)
  · exact alike
  · exact (service.perform_meets first message.request _).mono fun _ _ _ => trivial
  · exact (service.perform_meets second message.request _).mono fun _ _ _ => trivial
  · exact start
  · exact start'

/-- One message to two directories, alike in what the client sees of it. -/
theorem handle_eq (agree : first.AgreesWithin service.base second) (now : Nat) (message : Message)
    (compares : ∀ request, message.request = .compare request →
      first.get? request.dn = second.get? request.dn)
    {shared shared' : Shared} (start : shared.Sound first) (start' : shared'.Sound second)
    (connection : Connection Identity) :
    ∃ flow finish finish' connection',
      connection.handle service.handler Shared.environment now message shared =
          (flow, finish, connection') ∧
        connection.handle service.handler Shared.environment now message shared' =
          (flow, finish', connection') ∧
        finish.Sound first ∧ finish'.Sound second ∧
        (message.request.kind ≠ .unbind → connection.writer.IsSound →
          flow = .proceed ∧ connection'.writer.IsSound) :=
  service.handle_eq_of_alike now message connection
    (service.perform_alike rfl agree message.request connection.memory compares) start start'

theorem serve_eq (agree : first.AgreesWithin service.base second)
    (messages : List (Nat × Message)) (stays : StaysWithin service.base messages)
    {shared shared' : Shared} (start : shared.Sound first) (start' : shared'.Sound second)
    (connection : Connection Identity) :
    connection.serve service.handler Shared.environment messages shared =
      connection.serve service.handler Shared.environment messages shared' := by
  induction messages generalizing shared shared' connection with
  | nil => rfl
  | cons pair rest ih =>
    obtain ⟨now, message⟩ := pair
    by_cases unbinds : message.request.kind = .unbind
    · rw [Connection.serve_of_close rest (Connection.handle_unbind unbinds),
        Connection.serve_of_close rest (Connection.handle_unbind unbinds)]
    · have taken : ((now, message) :: rest).takeWhile (fun pair => pair.2.request.kind ≠ .unbind) =
          (now, message) :: rest.takeWhile fun pair => pair.2.request.kind ≠ .unbind := by
        simp [unbinds]
      rw [StaysWithin, taken, List.forall_mem_cons] at stays
      obtain ⟨here, later⟩ := stays
      obtain ⟨flow, finish, finish', connection', handled, handled', good, good', -⟩ :=
        service.handle_eq agree now message (fun request asked => agree.get? (here request asked))
          start start' connection
      cases flow with
      | close =>
        rw [Connection.serve_of_close rest handled, Connection.serve_of_close rest handled']
      | proceed =>
        rw [Connection.serve_of_proceed rest handled, Connection.serve_of_proceed rest handled',
          ih later good good' connection']

theorem handle_compare_observed (now id : Nat) (request : CompareRequest)
    (controls : List Control) (shared : Shared) (connection : Connection Identity)
    {failure : Failure}
    (fails : comparison request (.ok (shared.directory.get? request.dn)) = .error failure) :
    (connection.handle service.handler Shared.environment now ⟨id, .compare request, controls⟩
      shared).2.2.observed =
      connection.observed ++ [.operation RequestKind.compare.name failure.code] := by
  have begun : connection.begin service.handler now ⟨id, .compare request, controls⟩ =
      (.inr ⟨id, .compare, .compare, { id },
        service.handler.perform (.compare request) connection.memory⟩,
        { connection with stage := .dispatching }) := rfl
  rw [Connection.handle, begun]
  simp only
  rw [Task.run_of_ask (service.perform_compare_apply request connection.memory)]
  simp only [Exchange.answer, Shared.environment, Shared.answer]
  rw [Task.run_of_done rfl]
  simp only [Connection.conclude_observed, fails]
  rfl

theorem handle_compare_ne {now id : Nat} {request : CompareRequest} {controls : List Control}
    {shared shared' : Shared} {connection : Connection Identity} {entry : Entry}
    (missing : shared.directory.get? request.dn = none)
    (found : shared'.directory.get? request.dn = some entry)
    (bare : (entry.get? request.attr).isNone = true) :
    (connection.handle service.handler Shared.environment now ⟨id, .compare request, controls⟩
        shared).2.2 ≠
      (connection.handle service.handler Shared.environment now ⟨id, .compare request, controls⟩
        shared').2.2 := by
  intro same
  have observed := congrArg Connection.observed same
  rw [handle_compare_observed service now id request controls shared connection
      (by rw [missing, comparison]),
    handle_compare_observed service now id request controls shared' connection
      (by rw [found, comparison, if_pos bare]),
    List.append_cancel_left_eq] at observed
  cases observed

/-- A compare of a name outside the base, wherever it comes, tells a directory
with an entry of that name from one without. -/
theorem serve_ne {dn : String} (outside : Dn.isWithin (Dn.normalize dn) service.base ≠ true)
    (messages : List (Nat × Message))
    (asked : ∃ pair ∈ messages.takeWhile fun pair => pair.2.request.kind ≠ .unbind,
      ∃ request, pair.2.request = .compare request ∧ Dn.normalize request.dn = Dn.normalize dn)
    {shared shared' : Shared} (start : shared.Sound .vacant)
    (start' : shared'.Sound (.single { dn })) {connection : Connection Identity}
    (sound : connection.writer.IsSound) :
    connection.serve service.handler Shared.environment messages shared ≠
      connection.serve service.handler Shared.environment messages shared' := by
  have key : ({ dn } : Record).key = Dn.normalize dn := rfl
  have agree : Directory.vacant.AgreesWithin service.base (.single { dn }) :=
    Directory.vacant_agreesWithin_single outside
  induction messages generalizing shared shared' connection with
  | nil =>
    obtain ⟨pair, mem, -⟩ := asked
    cases mem
  | cons pair rest ih =>
    obtain ⟨now, message⟩ := pair
    by_cases unbinds : message.request.kind = .unbind
    · simp [unbinds] at asked
    · intro same
      by_cases here : ∃ request, message.request = .compare request ∧
          Dn.normalize request.dn = Dn.normalize dn
      · -- The answer to this very message differs.
        obtain ⟨request, compares, named⟩ := here
        obtain ⟨id, _, controls⟩ := message
        simp only at compares
        subst compares
        have missing : shared.directory.get? request.dn = none := by
          rw [start.serves, Directory.get?_vacant]
        have found : shared'.directory.get? request.dn = some { dn } := by
          rw [start'.serves]
          exact Directory.get?_single_of_eq (named.trans key.symm)
        have heads := congrArg List.head? same
        rw [Connection.head?_serve, Connection.head?_serve, Option.some.injEq] at heads
        exact service.handle_compare_ne missing found rfl heads
      · -- It does not, and the connection goes on to the one where it does.
        have compares (request : CompareRequest) (compares : message.request = .compare request) :
            Directory.vacant.get? request.dn = (Directory.single { dn }).get? request.dn := by
          have ne : Dn.normalize request.dn ≠ ({ dn } : Record).key := by
            rw [key]
            exact fun named => here ⟨request, compares, named⟩
          rw [Directory.get?_vacant, Directory.get?_single_of_ne ne]
        obtain ⟨flow, finish, finish', connection', handled, handled', good, good', goes⟩ :=
          service.handle_eq agree now message compares start start' connection
        obtain ⟨rfl, sound'⟩ := goes unbinds sound
        rw [Connection.serve_of_proceed rest handled, Connection.serve_of_proceed rest handled',
          List.cons.injEq] at same
        refine ih ?_ good good' sound' same.2
        simpa [unbinds, here] using asked

/-- Directories that agree within the base are told apart by no run of these
messages, exactly if none of them compares an entry outside the base. -/
theorem serve_eq_iff_staysWithin (messages : List (Nat × Message)) :
    (∀ (first second : Directory) (capacity : Option Nat) (connection : Connection Identity),
      first.AgreesWithin service.base second →
        connection.serve service.handler Shared.environment messages
            { directory := first, cache := capacity.map .empty } =
          connection.serve service.handler Shared.environment messages
            { directory := second, cache := capacity.map .empty }) ↔
      StaysWithin service.base messages := by
  constructor
  · intro confined pair mem request compares
    by_contra outside
    have agree : Directory.vacant.AgreesWithin service.base (.single { dn := request.dn }) :=
      Directory.vacant_agreesWithin_single outside
    have sound : ({ memory := .anonymous } : Connection Identity).writer.IsSound := ⟨rfl, rfl, rfl⟩
    have same := confined _ _ none { memory := .anonymous } agree
    have differ := service.serve_ne outside messages ⟨pair, mem, request, compares, rfl⟩
      (Shared.sound_empty _ none) (Shared.sound_empty _ none) sound
    exact differ same
  · intro stays first second capacity connection agree
    exact service.serve_eq agree messages stays (Shared.sound_empty first capacity)
      (Shared.sound_empty second capacity) connection

/-- One compare outside the base tells an entry there from none. -/
theorem compare_tells_outside :
    let service := ofBase "dc=example" false
    let hidden := Directory.single { dn := "cn=ann,dc=other" }
    let message : Message :=
      { id := 1, request := .compare { dn := "cn=ann,dc=other", attr := "cn", value := "ann" } }
    Directory.vacant.AgreesWithin service.base hidden ∧
      Connection.serve service.handler Shared.environment [(0, message)] { directory := .vacant }
          { memory := .anonymous } ≠
        Connection.serve service.handler Shared.environment [(0, message)] { directory := hidden }
          { memory := .anonymous } := by
  intro service hidden message
  have outside : Dn.isWithin (Dn.normalize "cn=ann,dc=other") service.base ≠ true := by
    decide +kernel
  refine ⟨Directory.vacant_agreesWithin_single outside, ?_⟩
  apply service.serve_ne outside
  · exact ⟨_, List.mem_singleton_self _, _, rfl, rfl⟩
  · exact Shared.sound_empty _ none
  · exact Shared.sound_empty _ none
  · exact ⟨rfl, rfl, rfl⟩

end DirectoryService

end LdapService

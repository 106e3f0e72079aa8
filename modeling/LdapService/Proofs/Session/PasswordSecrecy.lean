import LdapService.Proofs.Handler.Agreement
import LdapService.Proofs.Session.Abreast
import LdapService.Proofs.Session.Confinement

/-!
Passwords that no one binds with. Two directories whose records differ in nothing but
their passwords show the same entries, and no request but a bind asks for more. A
search that warms the cache asks for passwords and tells no client what it learns; it
only takes more or fewer steps.
-/

namespace LdapService

/-- The connections of a service after requests that come one at a time. Each comes
with its connection and the time. -/
def Connection.serveAll {ω σ : Type} (handler : Nat → Handler σ) (environment : Environment ω) :
    List (Nat × Nat × Message) → ω → (Nat → Connection σ) → Nat → Connection σ
  | [], _, connections => connections
  | (number, now, message) :: rest, outside, connections =>
      let (_, outside, connection) :=
        (connections number).handle (handler number) environment now message outside
      serveAll handler environment rest outside fun other =>
        if other = number then connection else connections other

namespace DirectoryService

def resume (services : Nat → DirectoryService) (limit : Nat) (fresh : Identity)
    (sessions : List (Nat × Session Identity)) (shared : Shared) : Service Shared Identity where
  handler number := (services number).handler
  environment := Shared.environment
  limit := limit
  fresh := fresh
  outside := shared
  sessions := sessions

variable (services : Nat → DirectoryService) {first second : Directory} {shared shared' : Shared}

theorem perform_alike_of_entries (service : DirectoryService)
    (shown : first.entries = second.entries) (request : Request) (memory : Identity)
    (other : request.kind ≠ .bind) :
    Program.Alike Streaming.Question.IsSeen first.contract.toStreaming second.contract.toStreaming
      (service.handler.perform request memory) (service.handler.perform request memory) := by
  refine service.perform_alike_of_ne_bind rfl (.of_entries shown) request memory ?_ ?_
  · rintro bind rfl
    exact other rfl
  · intro compare _
    rw [Directory.get?_eq_head?, Directory.get?_eq_head?, shown]

theorem resume_upholds (limit : Nat) (fresh : Identity) {sessions : List (Nat × Session Identity)}
    (quiet : ∀ pair ∈ sessions, ¬pair.2.IsBusy) (sound : shared.Sound first) :
    (resume services limit fresh sessions shared).Upholds first.contract (Shared.Sound first)
      fun _ _ => True := by
  refine ⟨sound, fun number session found => .of_quiet trivial ?_⟩
  obtain ⟨pair, mem, rfl⟩ := Option.map_eq_some_iff.1 found
  exact quiet pair (List.mem_of_find?_eq_some mem)

theorem resume_abreast (shown : first.entries = second.entries) (limit : Nat) (fresh : Identity)
    {sessions : List (Nat × Session Identity)} (quiet : ∀ pair ∈ sessions, ¬pair.2.IsBusy)
    (sound : shared.Sound first) (sound' : shared'.Sound second) :
    Service.Abreast (fun request => request.kind ≠ .bind) first.contract second.contract
      (Shared.Sound first) (Shared.Sound second) (resume services limit fresh sessions shared)
      (resume services limit fresh sessions shared') := fun number => {
  limit := rfl
  fresh := rfl
  now := rfl
  signal := rfl
  session := by
    have same : (resume services limit fresh sessions shared').session? number =
        (resume services limit fresh sessions shared).session? number := rfl
    have upheld := resume_upholds services limit fresh quiet sound
    rw [same]
    cases found : (resume services limit fresh sessions shared).session? number with
    | none => exact .none
    | some session =>
      obtain ⟨pair, mem, rfl⟩ := Option.map_eq_some_iff.1 found
      exact .some (.quiet (quiet pair (List.mem_of_find?_eq_some mem)))
  keepsHere := Shared.contract_keptBy first
  keepsThere := Shared.contract_keptBy second
  meetsHere number request memory :=
    ((services number).perform_meets first request memory).mono fun _ _ _ => trivial
  meetsThere number request memory :=
    ((services number).perform_meets second request memory).mono fun _ _ _ => trivial
  alike request memory other := perform_alike_of_entries (services number) shown request memory other
  upheldHere := resume_upholds services limit fresh quiet sound
  upheldThere := resume_upholds services limit fresh quiet sound' }

theorem serveAll_eq (shown : first.entries = second.entries)
    {requests : List (Nat × Nat × Message)}
    (others : ∀ request ∈ requests, request.2.2.request.kind ≠ .bind)
    (sound : shared.Sound first) (sound' : shared'.Sound second)
    (connections : Nat → Connection Identity) :
    Connection.serveAll (fun number => (services number).handler) Shared.environment requests
        shared connections =
      Connection.serveAll (fun number => (services number).handler) Shared.environment requests
        shared' connections := by
  induction requests generalizing shared shared' connections with
  | nil => rfl
  | cons request rest ih =>
    obtain ⟨number, now, message⟩ := request
    rw [List.forall_mem_cons] at others
    obtain ⟨flow, finish, finish', connection, handled, handled', good, good', -⟩ :=
      (services number).handle_eq_of_alike now message (connections number)
        (perform_alike_of_entries (services number) shown message.request _ others.1) sound sound'
    simp only [Connection.serveAll, handled, handled']
    exact ih others.2 good good' _

/-- Of records that differ in passwords only, either none or both make a directory, and
no connection tells the two apart unless it binds. That holds for requests of any other
kind, served one at a time, and for every interleaving of all that the sessions do:
whoever the connections speak for, and whatever sound caches of any capacity they share. -/
theorem passwords_stay_hidden {records records' : List Record}
    (same : records.map Record.withoutPassword = records'.map Record.withoutPassword) :
    (Directory.ofRecords records).map Directory.entries =
        (Directory.ofRecords records').map Directory.entries ∧
      ∀ {directory directory' : Directory}, Directory.ofRecords records = .ok directory →
        Directory.ofRecords records' = .ok directory' →
        ∀ {shared shared' : Shared}, shared.Sound directory → shared'.Sound directory' →
          (∀ requests : List (Nat × Nat × Message),
            (∀ request ∈ requests, request.2.2.request.kind ≠ .bind) →
            ∀ connections : Nat → Connection Identity,
              Connection.serveAll (fun number => (services number).handler) Shared.environment
                  requests shared connections =
                Connection.serveAll (fun number => (services number).handler) Shared.environment
                  requests shared' connections) ∧
            ∀ (limit : Nat) (fresh : Identity) (sessions : List (Nat × Session Identity)),
              (∀ pair ∈ sessions, ¬pair.2.IsBusy) → ∀ events : List Service.Event,
                let service := resume services limit fresh sessions
                (∀ pair ∈ (service shared).taken events, pair.2.request.kind ≠ .bind) →
                  ∃ paced, Service.Paced events paced ∧ ∀ number,
                    Option.Rel Session.LooksLike (((service shared).run events).session? number)
                      (((service shared').run paced).session? number) := by
  have shown : (Directory.ofRecords records).map Directory.entries =
      (Directory.ofRecords records').map Directory.entries := by
    rw [← Directory.ofRecords_withoutPassword, same, Directory.ofRecords_withoutPassword]
  refine ⟨shown, ?_⟩
  intro directory directory' made made' shared shared' sound sound'
  rw [made, made'] at shown
  have entries : directory.entries = directory'.entries := Except.ok.inj shown
  refine ⟨fun requests others connections => serveAll_eq services entries others sound sound' _, ?_⟩
  intro limit fresh sessions quiet events service others
  obtain ⟨paced, matched, abreast⟩ :=
    (resume_abreast services entries limit fresh quiet sound sound').run events others
  exact ⟨paced, matched, fun number => (abreast number).looksLike⟩

/-- A bound connection searches an entry, which warms the cache in the one directory
and not in the other. -/
theorem passwords_stay_hidden_warmed :
    let services := fun _ : Nat => ofBase "" true
    let record : Record := { dn := "a=1", attributes := Attributes.empty.insert "cn" ["x"] }
    let secret : Record := { record with password := some "secret" }
    let shared (record : Record) : Shared := ⟨.single record, some (.empty 1)⟩
    let service (record : Record) := resume services 100 ⟨some "uid=ann"⟩ [] (shared record)
    let search : Octets := [0x30, 0x1f, 0x02, 0x01, 0x01, 0x63, 0x1a, 0x04, 0x03, 0x61, 0x3d, 0x31,
      0x0a, 0x01, 0x02, 0x0a, 0x01, 0x00, 0x02, 0x01, 0x00, 0x02, 0x01, 0x00, 0x01, 0x01, 0x00,
      0x87, 0x02, 0x63, 0x6e, 0x30, 0x00]
    let events : List Service.Event := [.connected 1, .stepped 1, .received 1 search] ++
      List.replicate 7 (.stepped 1)
    ((service secret).run events).outside.cache.map (·.pairs) = some [("a=1", "secret")] ∧
      ∃ paced, Service.Paced events paced ∧ ∀ number, Option.Rel Session.LooksLike
        (((service secret).run events).session? number)
        (((service record).run paced).session? number) := by
  intro services record secret shared service search events
  refine ⟨by decide +kernel, ?_⟩
  have sound (record : Record) : (shared record).Sound (.single record) :=
    Shared.sound_empty (.single record) (some 1)
  have same : [secret].map Record.withoutPassword = [record].map Record.withoutPassword := rfl
  have hidden := (passwords_stay_hidden services same).2 rfl rfl (sound secret) (sound record)
  refine hidden.2 100 ⟨some "uid=ann"⟩ [] (List.forall_mem_nil _) events ?_
  decide +kernel

end DirectoryService

end LdapService

import LdapService.Proofs.Handler.Authorization
import LdapService.Proofs.Session.ServiceUpholds

/-!
Connections that share a directory and a cache, each served below a base of its
own. Whomever a connection speaks for, it has taken up a bind before that proved
it. The cache is no way around: what it recalls, the directory would accept,
whichever connection put it there.
-/

namespace LdapService

namespace DirectoryService

def serve (services : Nat → DirectoryService) (limit : Nat) (directory : Directory)
    (capacity : Option Nat) : Service Shared Identity where
  handler number := (services number).handler
  environment := Shared.environment
  limit := limit
  fresh := .anonymous
  outside := { directory, cache := capacity.map .empty }

theorem serve_upholds {kept : Nat → Identity → Prop} (services : Nat → DirectoryService)
    (limit : Nat) (directory : Directory) (capacity : Option Nat) :
    (serve services limit directory capacity).Upholds directory.contract
      (Shared.Sound directory) kept := by
  exact ⟨Shared.sound_empty directory capacity, fun number session found => nomatch found⟩

variable (services : Nat → DirectoryService) (directory : Directory)

/-- Among these messages is a bind of this connection that proves it to be whom
it speaks for, if anyone. -/
def IsProved (messages : List (Nat × Message)) (number : Nat) (identity : Identity) : Prop :=
  ∀ dn, identity.bound = some dn →
    ∃ message, (number, message) ∈ messages ∧
      message.request.Authorizes directory (services number).base dn

theorem IsProved.append {messages : List (Nat × Message)} {number : Nat} {identity : Identity}
    (h : IsProved services directory messages number identity) (more : List (Nat × Message)) :
    IsProved services directory (messages ++ more) number identity := by
  intro dn bound
  obtain ⟨message, mem, authorizes⟩ := h dn bound
  exact ⟨message, List.mem_append_left _ mem, authorizes⟩

theorem IsProved.perform {messages : List (Nat × Message)} {number : Nat} {before : Identity}
    (h : IsProved services directory messages number before) (message : Message) :
    ((services number).handler.perform message.request before).Meets
      directory.contract.toStreaming fun after _ =>
        IsProved services directory (messages ++ [(number, message)]) number after := by
  apply ((services number).perform_meets directory message.request before).mono
  intro after outcome binds dn bound
  rcases binds dn bound with old | authorizes
  · exact h.append services directory _ dn old
  · have mem : (number, message) ∈ messages ++ [(number, message)] :=
      List.mem_append_right _ (List.mem_singleton_self _)
    exact ⟨message, mem, authorizes⟩

/-- The invariant of a run: every connection is proved to be whom it speaks for
by the messages taken up so far. -/
theorem run_upholds_isProved (limit : Nat) (capacity : Option Nat) (events : List Service.Event) :
    ((serve services limit directory capacity).run events).Upholds directory.contract
      (Shared.Sound directory)
      (IsProved services directory ((serve services limit directory capacity).taken events)) := by
  have start : (serve services limit directory capacity).Upholds directory.contract
      (Shared.Sound directory) (IsProved services directory []) := serve_upholds _ _ _ _
  refine start.run (IsProved services directory) [] (Shared.contract_keptBy directory) ?_ ?_ ?_
    events
  · exact fun _ _ _ bound => nomatch bound
  · exact fun _ more _ _ proved => proved.append services directory more
  · exact fun _ _ message _ proved => proved.perform services directory message

/-- Whomever a connection speaks for, a bind that it has taken up has proved:
of version 3, of that name inside the base, with the password that the directory
holds for it. -/
theorem bound_authorized (limit : Nat) (capacity : Option Nat) (events : List Service.Event)
    {number : Nat} {session : Session Identity} {dn : String}
    (found : ((serve services limit directory capacity).run events).session? number =
      some session)
    (bound : session.connection.memory.bound = some dn) :
    ∃ message, (number, message) ∈ (serve services limit directory capacity).taken events ∧
      message.request.Authorizes directory (services number).base dn := by
  have upheld := run_upholds_isProved services directory limit capacity events
  exact (upheld.sessions number session found).memory dn bound

/-- One bind, step by step until it is answered. -/
theorem bound_authorized_ann :
    let directory := Directory.single { dn := "uid=ann", password := some "secret" }
    let services := fun _ : Nat => ofBase "" true
    let request := [0x30, 0x19, 0x02, 0x01, 0x01, 0x60, 0x14, 0x02, 0x01, 0x03, 0x04, 0x07] ++
      Text.utf8 "uid=ann" ++ [0x80, 0x06] ++ Text.utf8 "secret"
    let service := serve services 100 directory (some 1)
    let events : List Service.Event := [.connected 1, .stepped 1, .received 1 request] ++
      List.replicate 5 (.stepped 1)
    ∃ session, (service.run events).session? 1 = some session ∧
      session.connection.memory.bound = some "uid=ann" ∧
      ∃ message, (1, message) ∈ service.taken events ∧
        message.request.Authorizes directory "" "uid=ann" := by
  intro directory services request service events
  have bound : ((service.run events).session? 1).map (·.connection.memory.bound) =
      some (some "uid=ann") := by
    decide +kernel
  obtain ⟨session, found, bound⟩ := Option.map_eq_some_iff.1 bound
  exact ⟨session, found, bound,
    bound_authorized services directory 100 (some 1) events found bound⟩

end DirectoryService

end LdapService

import LdapService.Proofs.Directory.Agreement
import LdapService.Proofs.Handler.Authorization
import LdapService.Proofs.Program.Likeness

/-!
Two services with one base, each with a sound cache or with none, over two
directories that agree within that base. No client can tell them apart: a bind
and a search ask for names within the base only, and what is remembered or
forgotten no client sees. A compare asks for any name, so there the directories
must agree about that name as well.
-/

namespace LdapService.DirectoryService

variable (service : DirectoryService) {other : DirectoryService} {first second : Directory}

theorem checkPassword_alike (name password : String) (memory : Identity)
    (agree : first.verifyPassword name password = second.verifyPassword name password) :
    Program.Alike (fun _ => False) first.contract second.contract
      (service.checkPassword name (Dn.normalize name) password memory)
      (other.checkPassword name (Dn.normalize name) password memory) := by
  have here := service.checkPassword_meets_contract first name password memory
  have there := other.checkPassword_meets_contract second name password memory
  rw [← agree] at there
  exact .of_meets here there

theorem simpleBind_alike (base : other.base = service.base)
    (agree : first.AgreesWithin service.base second) (version : Nat) (name : Option String)
    (password : Octets) (memory : Identity) :
    Program.Alike (fun _ => False) first.contract second.contract
      (service.simpleBind version name password memory)
      (other.simpleBind version name password memory) := by
  rw [simpleBind_apply, simpleBind_apply, base]
  split
  · split
    · exact .done _ _
    · split
      · exact .done _ _
      · split
        · next inside =>
          split
          · exact .done _ _
          · have checked := agree.verifyPassword inside
            apply (service.checkPassword_alike _ _ _ (checked _)).andThen
            intro memory outcome
            split
            · exact .done _ _
            · exact .done _ _
            · exact .done _ _
        · exact .done _ _
  · exact .done _ _

/-- What is out of scope is as if it were not there. -/
theorem sendMatching_filter (base : String) (scope : Scope) (filter : Filter)
    (entries : List Entry) :
    service.sendMatching base scope filter
        (entries.filter fun entry => inScope (Dn.normalize entry.dn) base scope) =
      service.sendMatching base scope filter entries := by
  induction entries with
  | nil => rfl
  | cons entry rest ih =>
    by_cases inside : inScope (Dn.normalize entry.dn) base scope = true
    · rw [List.filter_cons, if_pos inside]
      simp only [sendMatching, ih]
    · rw [List.filter_cons, if_neg inside, ih]
      funext memory
      rw [sendMatching_cons_apply, if_neg inside]

theorem sendMatching_alike (base : String) (scope : Scope) (filter : Filter) (entries : List Entry)
    (memory : Identity) :
    Program.Alike Streaming.Question.IsSeen first.contract.toStreaming second.contract.toStreaming
      (service.sendMatching base scope filter entries memory)
      (other.sendMatching base scope filter entries memory) := by
  induction entries generalizing memory with
  | nil => exact .done _ _
  | cons entry rest ih =>
    rw [sendMatching_cons_apply, sendMatching_cons_apply]
    split
    · split
      · exact .done _ _
      · refine .both trivial fun answer => ?_
        split
        · exact .done _ _
        · have warmed := Program.Alike.of_meets (service.warm_meets first entry.dn memory)
            (other.warm_meets second entry.dn memory)
          apply warmed.toStreaming.andThen
          intro after outcome
          split
          · exact ih after
          · exact .done _ _
      · exact ih memory
    · exact ih memory

theorem search_alike (base : other.base = service.base)
    (shows : first.ShowsAlike service.base second) (request : SearchRequest)
    (memory : Identity) :
    Program.Alike Streaming.Question.IsSeen first.contract.toStreaming second.contract.toStreaming
      (service.search request memory) (other.search request memory) := by
  rw [search_apply, search_apply, base]
  split
  · next inside =>
    have found :
        first.get? (Dn.normalize request.base) = second.get? (Dn.normalize request.base) := by
      apply shows.get?
      rw [Dn.normalize_normalize]
      exact inside
    refine .hidden id fun answer answer' told told' => ?_
    rw [told, told', ← found]
    cases first.get? (Dn.normalize request.base) with
    | none => exact .done _ _
    | some entry =>
      have selected := shows.filter_entries
        (fun key => inScope key (Dn.normalize request.base) request.scope)
        fun key chosen => Dn.isWithin_trans (isWithin_of_inScope chosen) inside
      refine .hidden id fun listed listed' told told' => ?_
      rw [told, told']
      simp only
      rw [← sendMatching_filter, ← sendMatching_filter other, selected]
      exact service.sendMatching_alike _ _ _ _ _
  · exact .done _ _

theorem compare_alike (request : CompareRequest) (memory : Identity)
    (agree : first.get? request.dn = second.get? request.dn) :
    Program.Alike (fun _ => False) first.contract second.contract
      (compare request memory) (compare request memory) := by
  rw [compare_apply]
  refine .hidden id fun found found' told told' => ?_
  rw [told, told', agree]
  exact .done _ _

theorem extended_alike (request : ExtendedRequest) (memory : Identity) :
    Program.Alike (fun _ => False) first.contract second.contract
      (extended request memory) (extended request memory) := by
  rw [extended_apply]
  exact .done _ _

/-- No client can tell the two services apart by a request other than a bind: passwords
are not asked for, and it is enough that the same entries are shown. -/
theorem perform_alike_of_ne_bind (base : other.base = service.base)
    (shows : first.ShowsAlike service.base second) (request : Request) (memory : Identity)
    (different : ∀ bind, request ≠ .bind bind)
    (compares : ∀ compare, request = .compare compare →
      first.get? compare.dn = second.get? compare.dn) :
    Program.Alike Streaming.Question.IsSeen first.contract.toStreaming second.contract.toStreaming
      (service.handler.perform request memory) (other.handler.perform request memory) := by
  cases request with
  | bind request => exact absurd rfl (different request)
  | search request => exact .map _ (service.search_alike base shows request memory)
  | compare request =>
    have alike := (compare_alike request memory (compares request rfl)).toStreaming
    exact alike.andThen fun _ outcome => by cases outcome <;> exact .done _ _
  | extended request => exact .map _ (extended_alike request memory).toStreaming
  | unbind => exact .done _ _
  | modify => exact .done _ _
  | add => exact .done _ _
  | delete => exact .done _ _
  | modifyDn => exact .done _ _
  | abandon => exact .done _ _

/-- No client can tell the two services apart by a request, unless it compares
an entry that the directories do not agree about. -/
theorem perform_alike (base : other.base = service.base)
    (agree : first.AgreesWithin service.base second) (request : Request) (memory : Identity)
    (compares : ∀ compare, request = .compare compare →
      first.get? compare.dn = second.get? compare.dn) :
    Program.Alike Streaming.Question.IsSeen first.contract.toStreaming second.contract.toStreaming
      (service.handler.perform request memory) (other.handler.perform request memory) := by
  by_cases binds : ∃ bind, request = .bind bind
  · obtain ⟨request, rfl⟩ := binds
    apply Program.Alike.map
    apply Program.Alike.toStreaming
    unfold Handler.bind
    cases request.authentication with
    | simple password => exact service.simpleBind_alike base agree _ _ _ _
    | sasl mechanism credentials => exact .done _ _
  · have different : ∀ bind, request ≠ .bind bind := fun bind same => binds ⟨bind, same⟩
    exact service.perform_alike_of_ne_bind base agree.showsAlike request memory different compares

end LdapService.DirectoryService

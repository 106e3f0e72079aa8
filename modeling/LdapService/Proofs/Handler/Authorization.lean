import LdapService.Proofs.Directory.Passwords
import LdapService.Proofs.Handler.Questions

/-!
What lets a connection speak for a name: one simple bind of version 3 with that
name, inside the base, and with the password that the directory holds for it.
Whatever a request asks, it leaves a sound cache sound, it comes to its end, and
it binds the connection to no name but one that it authorizes by itself.
-/

namespace LdapService

/-- The request is a bind that proves whoever sends it to be `dn`. -/
def Request.Authorizes (directory : Directory) (base dn : String) : Request → Prop
  | .bind request => request.version = 3 ∧ Dn.normalize request.name = dn ∧
      Dn.isWithin dn base = true ∧ ∃ octets password, request.authentication = .simple octets ∧
        octets ≠ [] ∧ Text.ofUtf8? octets = some password ∧ directory.Holds dn password
  | _ => False

namespace DirectoryService

variable (service : DirectoryService) (directory : Directory)

/-- With a cache or without one, the answer is the directory's. -/
theorem checkPassword_meets_contract (name password : String) (memory : Identity) :
    (service.checkPassword name (Dn.normalize name) password memory).Meets directory.contract
      fun after outcome => after = memory ∧
        outcome = .ok (directory.verifyPassword name password) := by
  rw [checkPassword_apply]
  split
  · refine Program.meets_ask.2 ⟨trivial, fun recalled sound => ?_⟩
    split
    · next known =>
      have accepted := Directory.verifyPassword_iff.2 (sound known)
      rw [accepted]
      exact ⟨rfl, rfl⟩
    · refine Program.meets_ask.2 ⟨trivial, fun answer told => ?_⟩
      rw [told]
      cases accepted : directory.verifyPassword name password with
      | true =>
        have holds := Directory.verifyPassword_iff.1 accepted
        exact ⟨holds, fun _ _ => ⟨rfl, rfl⟩⟩
      | false => exact ⟨trivial, fun _ _ => ⟨rfl, rfl⟩⟩
  · refine Program.meets_ask.2 ⟨trivial, fun answer told => ?_⟩
    rw [told]
    exact ⟨rfl, rfl⟩

theorem warm_meets (dn : String) (memory : Identity) :
    (service.warm dn memory).Meets directory.contract
      fun after outcome => after = memory ∧ outcome = .ok () := by
  rw [warm_apply]
  split
  · refine Program.meets_ask.2 ⟨trivial, fun answer told => ?_⟩
    split
    · have holds := Directory.password?_eq_some_iff.1 (Except.ok.inj told).symm
      exact ⟨holds, fun _ _ => ⟨rfl, rfl⟩⟩
    · exact ⟨rfl, rfl⟩
  · exact ⟨rfl, rfl⟩

theorem simpleBind_meets_contract (request : BindRequest) (password : Octets) (before : Identity)
    (simple : request.authentication = .simple password) :
    (service.simpleBind request.version (if request.name = "" then none else some request.name)
      password before).Meets directory.contract fun after _ =>
        ∀ dn, after.bound = some dn →
          before.bound = some dn ∨ (Request.bind request).Authorizes directory service.base dn := by
  rw [simpleBind_apply]
  by_cases spoken : request.version = 3
  · rw [if_pos spoken]
    by_cases unnamed : request.name = ""
    · rw [if_pos unnamed]
      exact fun _ bound => nomatch bound
    · rw [if_neg unnamed]
      simp only
      split
      · exact fun _ bound => nomatch bound
      · next given =>
        split
        · next within =>
          split
          · exact fun _ bound => nomatch bound
          · next text readable =>
            apply (service.checkPassword_meets_contract directory _ _ _).andThen
            rintro memory outcome ⟨rfl, rfl⟩
            cases accepted : directory.verifyPassword request.name text with
            | false => exact fun _ bound => nomatch bound
            | true =>
              intro dn bound
              obtain rfl := Option.some.inj bound
              have holds := Directory.verifyPassword_iff.1 accepted
              refine .inr ⟨spoken, rfl, within, password, text, simple, ?_, readable, holds⟩
              simpa using given
        · exact fun _ bound => nomatch bound
  · rw [if_neg spoken]
    exact fun _ bound => .inl bound

theorem sendMatching_meets (base : String) (scope : Scope) (filter : Filter) (entries : List Entry)
    (memory : Identity) :
    (service.sendMatching base scope filter entries memory).Meets directory.contract.toStreaming
      fun after _ => after = memory := by
  induction entries with
  | nil => rfl
  | cons entry rest ih =>
    rw [sendMatching_cons_apply]
    split
    · split
      · rfl
      · refine Program.meets_ask.2 ⟨trivial, fun answer _ => ?_⟩
        split
        · rfl
        · apply (service.warm_meets directory _ _).toStreaming.andThen
          rintro after outcome ⟨rfl, rfl⟩
          exact ih
      · exact ih
    · exact ih

theorem search_meets (request : SearchRequest) (memory : Identity) :
    (service.search request memory).Meets directory.contract.toStreaming
      fun after _ => after = memory := by
  rw [search_apply]
  split
  · refine Program.meets_ask.2 ⟨trivial, fun found _ => ?_⟩
    split
    · rfl
    · rfl
    · refine Program.meets_ask.2 ⟨trivial, fun listed _ => ?_⟩
      split
      · rfl
      · exact service.sendMatching_meets directory _ _ _ _ _
  · rfl

theorem compare_meets (request : CompareRequest) (memory : Identity) :
    (compare request memory).Meets directory.contract fun after _ => after = memory := by
  rw [compare_apply]
  exact ⟨trivial, fun _ _ => rfl⟩

theorem extended_meets (request : ExtendedRequest) (memory : Identity) :
    (extended request memory).Meets directory.contract fun after _ => after = memory := by
  rw [extended_apply]
  rfl

theorem perform_meets_of_ne_bind (request : Request) (before : Identity)
    (other : ∀ bind, request ≠ .bind bind) :
    (service.handler.perform request before).Meets directory.contract.toStreaming
      fun after _ => after = before := by
  cases request with
  | bind request => exact absurd rfl (other request)
  | search request => exact .map _ (service.search_meets directory request before)
  | compare request =>
    have asked := (compare_meets directory request before).toStreaming
    exact asked.andThen fun _ outcome same => by cases outcome <;> exact same
  | extended request => exact .map _ (extended_meets directory request before).toStreaming
  | unbind => rfl
  | modify => rfl
  | add => rfl
  | delete => rfl
  | modifyDn => rfl
  | abandon => rfl

/-- A request keeps the cache sound, ends, and binds to no name that it does not
authorize. -/
theorem perform_meets (request : Request) (before : Identity) :
    (service.handler.perform request before).Meets directory.contract.toStreaming fun after _ =>
      ∀ dn, after.bound = some dn →
        before.bound = some dn ∨ request.Authorizes directory service.base dn := by
  by_cases binds : ∃ bind, request = .bind bind
  · obtain ⟨request, rfl⟩ := binds
    apply Program.Meets.map
    apply Program.Meets.toStreaming
    unfold Handler.bind
    cases method : request.authentication with
    | simple password =>
      exact service.simpleBind_meets_contract directory request password before method
    | sasl mechanism credentials => exact fun _ bound => .inl bound
  · have other : ∀ bind, request ≠ .bind bind := fun bind same => binds ⟨bind, same⟩
    apply (service.perform_meets_of_ne_bind directory request before other).mono
    rintro after outcome rfl dn bound
    exact .inl bound

end DirectoryService

end LdapService

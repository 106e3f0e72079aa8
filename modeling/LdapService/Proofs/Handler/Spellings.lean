import LdapService.Directory.Shared
import LdapService.Proofs.Dn.Spelling
import LdapService.Proofs.Handler.Questions

/-!
One name in different spellings. Look-ups go by the normal form, a bind asks for the name as
it was given and is answered by its normal form, and a search normalizes its base before it
does anything else. So none of them makes a difference between spellings of a name.
-/

namespace LdapService

/-- Look-ups, binds and the base of a search come out the same for both names. -/
structure TreatedAlike (dn dn' : String) : Prop where
  normalize : Dn.normalize dn = Dn.normalize dn'
  get? : ∀ directory : Directory, directory.get? dn = directory.get? dn'
  password? : ∀ directory : Directory, directory.password? dn = directory.password? dn'
  verifyPassword : ∀ (directory : Directory) (password : String),
    directory.verifyPassword dn password = directory.verifyPassword dn' password
  bind : ∀ (service : DirectoryService) (version : Nat) (password : Octets) (memory : Identity)
    (shared : Shared),
    (service.simpleBind version (some dn) password memory).run Shared.answer shared =
      (service.simpleBind version (some dn') password memory).run Shared.answer shared
  search : ∀ (service : DirectoryService) (request : SearchRequest),
    service.search { request with base := dn } = service.search { request with base := dn' }

theorem Directory.find?_congr (directory : Directory) {dn dn' : String}
    (same : Dn.normalize dn = Dn.normalize dn') : directory.find? dn = directory.find? dn' := by
  rw [find?, find?, same]

namespace DirectoryService

variable (service : DirectoryService) {dn dn' : String}

theorem run_verifyPassword_congr {μ α : Type}
    (answer : (question : Backend.Question) → μ → Backend.Answer question × μ) {password : String}
    (alike : ∀ state,
      answer (.verifyPassword dn password) state = answer (.verifyPassword dn' password) state)
    {next next' : Except ServiceError Bool → Program backend Identity α}
    (rest : ∀ told, next told = next' told) (state : μ) :
    Program.run answer (.ask (I := backend) (.verifyPassword dn password) next) state =
      Program.run answer (.ask (I := backend) (.verifyPassword dn' password) next') state := by
  rw [Program.run, Program.run, alike, rest]

/-- A password check asks for the name once at most. -/
theorem run_checkPassword_congr {μ α : Type}
    (answer : (question : Backend.Question) → μ → Backend.Answer question × μ) {password : String}
    (alike : ∀ state,
      answer (.verifyPassword dn password) state = answer (.verifyPassword dn' password) state)
    (key : String) (memory : Identity)
    (next : Identity → Except Failure Bool → Program backend Identity α) (state : μ) :
    ((service.checkPassword dn key password memory).andThen next).run answer state =
      ((service.checkPassword dn' key password memory).andThen next).run answer state := by
  rw [checkPassword_apply, checkPassword_apply]
  by_cases caches : service.caches = true
  · rw [if_pos caches, if_pos caches, Program.andThen_ask, Program.andThen_ask, Program.run,
      Program.run]
    split
    · rfl
    · refine run_verifyPassword_congr answer alike (fun told => ?_) _
      rcases told with error | accepted
      · rfl
      · cases accepted <;> rfl
  · rw [if_neg caches, if_neg caches]
    exact run_verifyPassword_congr answer alike (fun _ => rfl) state

theorem run_simpleBind_congr {μ : Type}
    (answer : (question : Backend.Question) → μ → Backend.Answer question × μ)
    (same : Dn.normalize dn = Dn.normalize dn')
    (alike : ∀ password state,
      answer (.verifyPassword dn password) state = answer (.verifyPassword dn' password) state)
    (version : Nat) (password : Octets) (memory : Identity) (state : μ) :
    (service.simpleBind version (some dn) password memory).run answer state =
      (service.simpleBind version (some dn') password memory).run answer state := by
  rw [simpleBind_apply, simpleBind_apply]
  simp only [same]
  split
  · split
    · rfl
    · split
      · split
        · rfl
        · next text _ => exact service.run_checkPassword_congr answer (alike text) _ _ _ state
      · rfl
  · rfl

theorem search_congr (same : Dn.normalize dn = Dn.normalize dn') (request : SearchRequest) :
    service.search { request with base := dn } = service.search { request with base := dn' } := by
  unfold search
  simp only [same]

end DirectoryService

theorem TreatedAlike.of_normalize {dn dn' : String} (same : Dn.normalize dn = Dn.normalize dn') :
    TreatedAlike dn dn' := by
  have found (directory : Directory) := directory.find?_congr same
  have password (directory : Directory) : directory.password? dn = directory.password? dn' := by
    rw [Directory.password?, Directory.password?, found]
  have verified (directory : Directory) (password' : String) :
      directory.verifyPassword dn password' = directory.verifyPassword dn' password' := by
    rw [Directory.verifyPassword, Directory.verifyPassword, password]
  refine ⟨same, fun directory => ?_, password, verified, ?_,
    fun service => service.search_congr same⟩
  · rw [Directory.get?, Directory.get?, found]
  · intro service version password memory shared
    refine service.run_simpleBind_congr Shared.answer same (fun password shared => ?_) version
      password memory shared
    rw [Shared.answer, Shared.answer, verified]

/-- The normal form of a name is that of all its spellings, its own included, and no
operation that goes by it tells them apart. -/
theorem spellings_treated_alike {dn dn' : String} (spelling : Dn.IsSpellingOf dn dn') :
    Dn.normalize (Dn.normalize dn) = Dn.normalize dn ∧ TreatedAlike dn dn' :=
  ⟨Dn.normalize_normalize dn, .of_normalize spelling.normalize_eq⟩

theorem spellings_treated_alike_brian :
    Dn.IsSpellingOf "UID =Brian, OU=People" "uid=brian,ou=people" ∧
      TreatedAlike "UID =Brian, OU=People" "uid=brian,ou=people" := by
  have small : Dn.Respelled "UID =Brian, OU=People" "uid =brian, ou=people" :=
    .letterCase (by decide)
  have tight : Dn.Respelled "uid =brian,ou=people" "uid =brian, ou=people" :=
    .blank (.afterComma "uid =brian".toList "ou=people".toList) (c := ' ') (by decide)
  have closed : Dn.Respelled "uid=brian,ou=people" "uid =brian,ou=people" :=
    .blank (.beforeEquals (.inl rfl) (by decide : ',' ∉ "uid".toList) (by decide)
      "brian,ou=people".toList) (c := ' ') (by decide)
  have spelling : Dn.IsSpellingOf "UID =Brian, OU=People" "uid=brian,ou=people" :=
    .trans _ _ _ (.rel _ _ small)
      (.trans _ _ _ (.symm _ _ (.rel _ _ tight)) (.symm _ _ (.rel _ _ closed)))
  exact ⟨spelling, (spellings_treated_alike spelling).2⟩

end LdapService

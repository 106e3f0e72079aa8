import LdapService.Directory.Basic
import LdapService.Directory.CredentialCache
import LdapService.Session.Connection

/-!
What all connections of a service share: a directory, which does not change,
and perhaps a credential cache, which does.
-/

namespace LdapService

structure Shared where
  directory : Directory
  cache : Option CredentialCache := none

namespace Shared

def changeCache (change : CredentialCache → CredentialCache) (shared : Shared) : Shared :=
  { shared with cache := shared.cache.map change }

def answer : (question : Backend.Question) → Shared → Backend.Answer question × Shared
  | .listEntries, shared => (.ok shared.directory.entries, shared)
  | .getEntry dn, shared => (.ok (shared.directory.get? dn), shared)
  | .verifyPassword dn password, shared =>
      (.ok (shared.directory.verifyPassword dn password), shared)
  | .password dn, shared => (.ok (shared.directory.password? dn), shared)
  | .recall key password, shared => (shared.cache.any (·.verify key password), shared)
  | .remember key password, shared => ((), shared.changeCache (·.insert key password))
  | .forget key, shared => ((), shared.changeCache (·.remove key))

def environment : Environment Shared := ⟨answer⟩

end Shared

end LdapService

import LdapService.Proofs.Handler.Agreement
import LdapService.Proofs.Session.Alone
import LdapService.Proofs.Session.BoundNames

/-!
What a credential cache is to the clients: nothing. However the steps of all
connections come in between each other, each connection is answered as it would
be alone and without any cache.
-/

namespace LdapService.DirectoryService

def uncached (service : DirectoryService) : DirectoryService := { service with caches := false }

variable (services : Nat → DirectoryService) (limit : Nat) (directory : Directory)

theorem serve_inStep (capacity capacity' : Option Nat) (number : Nat) :
    Service.InStep (fun _ => True) directory.contract directory.contract (Shared.Sound directory)
      (Shared.Sound directory) number (serve services limit directory capacity)
      (serve (fun number => (services number).uncached) limit directory capacity') where
  limit := rfl
  fresh := rfl
  keepsHere := Shared.contract_keptBy directory
  keepsThere := Shared.contract_keptBy directory
  meetsHere number request memory :=
    ((services number).perform_meets directory request memory).mono fun _ _ _ => trivial
  meetsThere number request memory :=
    ((services number).uncached.perform_meets directory request memory).mono fun _ _ _ => trivial
  alike request memory _ := by
    have base : (services number).uncached.base = (services number).base := rfl
    exact (services number).perform_alike base (.refl _ directory) request memory fun _ _ => rfl
  upheldHere := serve_upholds _ _ _ _
  upheldThere := serve_upholds _ _ _ _
  now := rfl
  signal := rfl
  session := .none

/-- A connection among others that share a cache of any capacity, after any
interleaving, looks like the same connection alone without a cache: its answers
have the same codes and the same frames have been written to it. -/
theorem run_looksLike_alone (capacity : Nat) (events : List Service.Event) (number : Nat) :
    ∃ alone, Service.Alone number events alone ∧
      Option.Rel Session.LooksLike
        (((serve services limit directory (some capacity)).run events).session? number)
        (((serve (fun number => (services number).uncached) limit directory none).run
          alone).session? number) := by
  obtain ⟨alone, matched, inStep⟩ :=
    (serve_inStep services limit directory (some capacity) none number).alone events
  exact ⟨alone, matched, inStep.looksLike⟩

end LdapService.DirectoryService

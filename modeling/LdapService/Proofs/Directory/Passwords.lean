import LdapService.Directory.Shared
import LdapService.Proofs.Program.Contract

/-!
Passwords of a directory, and what a cache may claim about them. A cache is
sound when each of its pairs is a normalized name with the password that the
directory holds for it. Whoever writes only such pairs keeps it sound, and
then a password that the cache recalls is one the directory would accept.
-/

namespace LdapService

theorem find?_key_of_mem {α : Type} {key : α → String} {items : List α} {item : α}
    (distinct : (items.map key).Nodup) (mem : item ∈ items) :
    items.find? (fun other => key other == key item) = some item := by
  induction items with
  | nil => cases mem
  | cons head rest ih =>
    rw [List.map_cons, List.nodup_cons] at distinct
    obtain ⟨fresh, distinct⟩ := distinct
    rcases List.mem_cons.1 mem with rfl | mem
    · simp
    · have other : key head ≠ key item := by
        intro same
        exact fresh (same ▸ List.mem_map_of_mem mem)
      simp only [List.find?_cons, beq_eq_false_iff_ne.2 other]
      exact ih distinct mem

namespace Directory

def vacant : Directory where
  stored := []
  normalized _ mem := absurd mem List.not_mem_nil
  distinct := List.nodup_nil

def single (record : Record) : Directory where
  stored := [.ofRecord record]
  normalized := by
    intro item mem
    obtain rfl := List.mem_singleton.1 mem
    rfl
  distinct := List.nodup_cons.2 ⟨List.not_mem_nil, .nil⟩

def Holds (directory : Directory) (key password : String) : Prop :=
  ∃ item ∈ directory.stored, item.key = key ∧ item.password = some password

theorem find?_eq_some_iff {directory : Directory} {dn : String} {item : StoredEntry} :
    directory.find? dn = some item ↔
      item ∈ directory.stored ∧ item.key = Dn.normalize dn := by
  constructor
  · intro found
    have same := List.find?_some found
    exact ⟨List.mem_of_find?_eq_some found, by simpa using same⟩
  · rintro ⟨mem, same⟩
    have found := find?_key_of_mem directory.distinct mem
    rwa [same] at found

theorem get?_vacant (dn : String) : vacant.get? dn = none := by
  simp [get?, find?, vacant]

theorem get?_single_of_eq {record : Record} {dn : String} (same : Dn.normalize dn = record.key) :
    (single record).get? dn = some { dn := record.dn, attributes := record.attributes } := by
  simp [get?, find?, single, StoredEntry.ofRecord, same]

theorem get?_single_of_ne {record : Record} {dn : String} (ne : Dn.normalize dn ≠ record.key) :
    (single record).get? dn = none := by
  simp [get?, find?, single, StoredEntry.ofRecord, Ne.symm ne]

theorem password?_eq_some_iff {directory : Directory} {dn password : String} :
    directory.password? dn = some password ↔ directory.Holds (Dn.normalize dn) password := by
  simp only [password?, Option.bind_eq_some_iff, find?_eq_some_iff, Holds, and_assoc]

theorem verifyPassword_iff {directory : Directory} {dn password : String} :
    directory.verifyPassword dn password = true ↔
      directory.Holds (Dn.normalize dn) password := by
  rw [verifyPassword, beq_iff_eq, password?_eq_some_iff]

end Directory

namespace CredentialCache

variable {cache : CredentialCache} {directory : Directory} {key password : String}

/-- Every pair is a normalized name with its password in the directory. -/
def Sound (cache : CredentialCache) (directory : Directory) : Prop :=
  ∀ pair ∈ cache.pairs, directory.Holds pair.1 pair.2

theorem sound_empty (capacity : Nat) (directory : Directory) :
    (empty capacity).Sound directory := by
  intro pair mem
  cases mem

theorem mem_put {pairs : List (String × String)} {pair : String × String}
    (h : pair ∈ put key password pairs) : pair = (key, password) ∨ pair ∈ pairs := by
  induction pairs with
  | nil => simpa [put] using h
  | cons head rest ih =>
    simp only [put] at h
    split at h
    · rcases List.mem_cons.1 h with same | mem
      · exact .inl same
      · exact .inr (List.mem_cons_of_mem _ mem)
    · rcases List.mem_cons.1 h with same | mem
      · exact .inr (same ▸ List.mem_cons_self)
      · exact (ih mem).imp id (List.mem_cons_of_mem _)

theorem Sound.insert (sound : cache.Sound directory) (holds : directory.Holds key password) :
    (cache.insert key password).Sound directory := by
  intro pair mem
  rcases mem_put (List.mem_of_mem_drop mem) with rfl | old
  · exact holds
  · exact sound pair old

theorem Sound.remove (sound : cache.Sound directory) (key : String) :
    (cache.remove key).Sound directory := by
  intro pair mem
  exact sound pair (List.mem_filter.1 mem).1

theorem Sound.holds_of_verify (sound : cache.Sound directory)
    (verified : cache.verify key password = true) : directory.Holds key password := by
  rw [verify, beq_iff_eq, get?, Option.map_eq_some_iff] at verified
  obtain ⟨pair, found, rfl⟩ := verified
  have same := List.find?_some found
  rw [beq_iff_eq] at same
  exact same ▸ sound pair (List.mem_of_find?_eq_some found)

end CredentialCache

/-- What is asked of a directory and a cache: to remember only passwords that
the directory holds. The answers are then those of the directory, and only
such passwords are recalled. -/
def Directory.contract (directory : Directory) : Contract backend where
  allowed
    | .remember key password => directory.Holds key password
    | .listEntries | .getEntry _ | .verifyPassword _ _ | .password _ | .recall _ _ | .forget _ =>
        True
  possible
    | .listEntries, answer => answer = .ok directory.entries
    | .getEntry dn, answer => answer = .ok (directory.get? dn)
    | .verifyPassword dn password, answer => answer = .ok (directory.verifyPassword dn password)
    | .password dn, answer => answer = .ok (directory.password? dn)
    | .recall key password, answer => answer = true → directory.Holds key password
    | .remember _ _, _ | .forget _, _ => True

namespace Shared

structure Sound (directory : Directory) (shared : Shared) : Prop where
  serves : shared.directory = directory
  sound : ∀ cache ∈ shared.cache, cache.Sound directory

theorem sound_empty (directory : Directory) (capacity : Option Nat) :
    Sound directory { directory, cache := capacity.map .empty } := by
  refine ⟨rfl, ?_⟩
  intro cache mem
  obtain ⟨capacity, -, rfl⟩ := Option.map_eq_some_iff.1 mem
  exact CredentialCache.sound_empty capacity directory

theorem Sound.changeCache {directory : Directory} {shared : Shared}
    (sound : shared.Sound directory) {change : CredentialCache → CredentialCache}
    (keeps : ∀ cache : CredentialCache, cache.Sound directory → (change cache).Sound directory) :
    (shared.changeCache change).Sound directory := by
  refine ⟨sound.serves, ?_⟩
  intro cache mem
  obtain ⟨old, found, rfl⟩ := Option.map_eq_some_iff.1 mem
  exact keeps old (sound.sound old found)

theorem contract_keptBy (directory : Directory) :
    directory.contract.KeptBy answer (Sound directory) := by
  intro question shared allowed good
  obtain rfl := good.serves
  cases question with
  | listEntries => exact ⟨rfl, good⟩
  | getEntry => exact ⟨rfl, good⟩
  | verifyPassword => exact ⟨rfl, good⟩
  | password => exact ⟨rfl, good⟩
  | «recall» key password =>
    refine ⟨?_, good⟩
    intro recalled
    obtain ⟨cache, found, verified⟩ := (Option.any_eq_true _ _).1 recalled
    exact (good.sound cache found).holds_of_verify verified
  | remember => exact ⟨trivial, good.changeCache fun _ sound => sound.insert allowed⟩
  | forget key => exact ⟨trivial, good.changeCache fun _ sound => sound.remove key⟩

end Shared

end LdapService

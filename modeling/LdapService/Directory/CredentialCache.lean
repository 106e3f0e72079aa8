/-!
Credentials seen lately, shared by all connections. At most `capacity` keys
are held, oldest insertion first; writing a key again does not move it, and a
cache without capacity holds nothing.
-/

namespace LdapService

structure CredentialCache where
  capacity : Nat
  pairs : List (String × String)
  distinct : (pairs.map (·.1)).Nodup
  bounded : pairs.length ≤ capacity

namespace CredentialCache

def empty (capacity : Nat) : CredentialCache :=
  ⟨capacity, [], .nil, Nat.zero_le _⟩

def get? (cache : CredentialCache) (key : String) : Option String :=
  (cache.pairs.find? fun pair => pair.1 == key).map (·.2)

def verify (cache : CredentialCache) (key password : String) : Bool :=
  cache.get? key == some password

def put (key password : String) : List (String × String) → List (String × String)
  | [] => [(key, password)]
  | pair :: rest =>
      if pair.1 = key then (key, password) :: rest else pair :: put key password rest

theorem keys_put (key password : String) (pairs : List (String × String)) :
    (put key password pairs).map (·.1) =
      if key ∈ pairs.map (·.1) then pairs.map (·.1) else pairs.map (·.1) ++ [key] := by
  induction pairs with
  | nil => simp [put]
  | cons pair rest ih =>
    simp only [put]
    split
    · next same => simp [same]
    · next other =>
      simp only [List.map_cons, ih, List.mem_cons, Ne.symm other, false_or]
      split <;> simp

theorem nodup_put {key password : String} {pairs : List (String × String)}
    (h : (pairs.map (·.1)).Nodup) : ((put key password pairs).map (·.1)).Nodup := by
  rw [keys_put]
  split
  · exact h
  · next fresh =>
    refine List.nodup_append.2 ⟨h, by simp, ?_⟩
    intro old mem new only same
    simp only [List.mem_singleton] at only
    exact fresh (only ▸ same ▸ mem)

def insert (cache : CredentialCache) (key password : String) : CredentialCache :=
  let pairs := put key password cache.pairs
  { capacity := cache.capacity
    pairs := pairs.drop (pairs.length - cache.capacity)
    distinct := by
      rw [List.map_drop]
      exact (nodup_put cache.distinct).sublist (List.drop_sublist _ _)
    bounded := by
      rw [List.length_drop]
      omega }

def remove (cache : CredentialCache) (key : String) : CredentialCache :=
  { capacity := cache.capacity
    pairs := cache.pairs.filter fun pair => pair.1 != key
    distinct := cache.distinct.sublist (List.filter_sublist.map _)
    bounded := Nat.le_trans (List.length_filter_le _ _) cache.bounded }

def size (cache : CredentialCache) : Nat := cache.pairs.length

end CredentialCache

end LdapService

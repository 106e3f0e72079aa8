import LdapService.Proofs.Directory.Passwords
import Mathlib.Data.List.Induction
import Mathlib.Data.List.Nodup
import Mathlib.Data.Nat.Find

/-!
Credential caches after any calls, whoever makes them. A cache is a queue: a key stands where
the insertion put it that brought it in, writing it again does not move it, and what goes
beyond the capacity goes from the front. The password of a key that is there is the last one
that was given for it.

The same is shown of a cache in two parts, a table of passwords by key and a queue of keys.
Nothing in its types keeps the two in step; that every call does is the invariant here.
-/

namespace LdapService

namespace CredentialCache

inductive Call where
  | insert (key password : String)
  | remove (key : String)
  | verify (key password : String)
  deriving DecidableEq, Repr

def apply (cache : CredentialCache) : Call → CredentialCache
  | .insert key password => cache.insert key password
  | .remove key => cache.remove key
  | .verify _ _ => cache

def after (capacity : Nat) (history : List Call) : CredentialCache :=
  history.foldl apply (empty capacity)

def keys (cache : CredentialCache) : List String :=
  cache.pairs.map (·.1)

namespace Call

def requeue (capacity : Nat) (order : List String) : Call → List String
  | insert key _ =>
      let longer := if key ∈ order then order else order ++ [key]
      longer.drop (longer.length - capacity)
  | remove key => order.filter (· != key)
  | verify _ _ => order

def ofQuestion? : Backend.Question → Option Call
  | .remember key password => some (.insert key password)
  | .forget key => some (.remove key)
  | .recall key password => some (.verify key password)
  | .listEntries | .getEntry _ | .verifyPassword _ _ | .password _ => none

def given? (key : String) : Call → Option String
  | insert other password => if other = key then some password else none
  | remove _ | verify _ _ => none

end Call

def lastGiven? (history : List Call) (key : String) : Option String :=
  history.reverse.findSome? (Call.given? key)

/-- How many calls had been made when the key was last absent. -/
def lastAbsent (capacity : Nat) (history : List Call) (key : String) : Nat :=
  Nat.findGreatest (fun count => key ∉ (after capacity (history.take count)).keys) history.length

theorem after_concat (capacity : Nat) (history : List Call) (call : Call) :
    after capacity (history ++ [call]) = (after capacity history).apply call := by
  rw [after, List.foldl_append]
  rfl

theorem capacity_apply (cache : CredentialCache) (call : Call) :
    (cache.apply call).capacity = cache.capacity := by
  cases call <;> rfl

theorem capacity_after (capacity : Nat) (history : List Call) :
    (after capacity history).capacity = capacity := by
  induction history using List.reverseRecOn with
  | nil => rfl
  | append_singleton history call ih => rw [after_concat, capacity_apply, ih]

theorem keys_apply (cache : CredentialCache) (call : Call) :
    (cache.apply call).keys = call.requeue cache.capacity cache.keys := by
  cases call with
  | insert key password =>
    have size : (put key password cache.pairs).length =
        ((put key password cache.pairs).map (·.1)).length := (List.length_map _).symm
    simp only [apply, keys, insert, List.map_drop, size, keys_put]
    rfl
  | remove key =>
    simp only [apply, keys, remove, Call.requeue, List.filter_map]
    rfl
  | verify => rfl

theorem keys_after_concat (capacity : Nat) (history : List Call) (call : Call) :
    (after capacity (history ++ [call])).keys =
      call.requeue capacity (after capacity history).keys := by
  rw [after_concat, keys_apply, capacity_after]

theorem mem_put_iff {key password : String} {pairs : List (String × String)}
    (distinct : (pairs.map (·.1)).Nodup) {pair : String × String} :
    pair ∈ put key password pairs ↔ pair = (key, password) ∨ pair ∈ pairs ∧ pair.1 ≠ key := by
  induction pairs with
  | nil => simp [put]
  | cons head rest ih =>
    rw [List.map_cons, List.nodup_cons] at distinct
    obtain ⟨alone, distinct⟩ := distinct
    rw [put]
    split
    · next same =>
      have others : ∀ pair ∈ rest, pair.1 ≠ key := by
        intro pair mem same'
        exact alone (List.mem_map.2 ⟨pair, mem, same'.trans same.symm⟩)
      rw [List.mem_cons, List.mem_cons]
      refine or_congr_right ⟨fun mem => ⟨.inr mem, others pair mem⟩, ?_⟩
      rintro ⟨rfl | mem, other⟩
      · exact absurd same other
      · exact mem
    · next other =>
      have kept : pair = head ↔ pair = head ∧ pair.1 ≠ key := by
        refine ⟨?_, And.left⟩
        rintro rfl
        exact ⟨rfl, other⟩
      rw [List.mem_cons, ih distinct, List.mem_cons, or_and_right, ← kept, or_left_comm]

theorem mem_keys_iff {cache : CredentialCache} {key : String} :
    key ∈ cache.keys ↔ ∃ password, (key, password) ∈ cache.pairs := by
  rw [keys, List.mem_map]
  constructor
  · rintro ⟨⟨_, password⟩, mem, rfl⟩
    exact ⟨password, mem⟩
  · rintro ⟨password, mem⟩
    exact ⟨(key, password), mem, rfl⟩

theorem verify_iff_mem {cache : CredentialCache} {key password : String} :
    cache.verify key password = true ↔ (key, password) ∈ cache.pairs := by
  rw [verify, beq_iff_eq, get?, Option.map_eq_some_iff]
  constructor
  · rintro ⟨pair, found, rfl⟩
    have same := List.find?_some found
    rw [← beq_iff_eq.1 same]
    exact List.mem_of_find?_eq_some found
  · intro mem
    exact ⟨(key, password), find?_key_of_mem cache.distinct mem, rfl⟩

theorem lastGiven?_concat (history : List Call) (call : Call) (key : String) :
    lastGiven? (history ++ [call]) key = (call.given? key).or (lastGiven? history key) := by
  rw [lastGiven?, List.reverse_concat, List.findSome?_cons, lastGiven?]
  cases call.given? key <;> rfl

theorem lastGiven?_of_mem {capacity : Nat} {history : List Call} {key password : String}
    (mem : (key, password) ∈ (after capacity history).pairs) :
    lastGiven? history key = some password := by
  induction history using List.reverseRecOn with
  | nil => cases mem
  | append_singleton history call ih =>
    rw [after_concat] at mem
    rw [lastGiven?_concat]
    cases call with
    | insert other given =>
      have put := List.mem_of_mem_drop mem
      rcases (mem_put_iff (after capacity history).distinct).1 put with same | ⟨old, ne⟩
      · obtain ⟨rfl, rfl⟩ := Prod.mk.inj same
        rw [Call.given?, if_pos rfl]
        rfl
      · rw [Call.given?, if_neg (Ne.symm ne)]
        exact ih old
    | remove => exact ih (List.mem_filter.1 mem).1
    | verify => exact ih mem

theorem verify_after_iff {capacity : Nat} {history : List Call} {key password : String} :
    (after capacity history).verify key password = true ↔
      key ∈ (after capacity history).keys ∧ lastGiven? history key = some password := by
  rw [verify_iff_mem]
  constructor
  · intro mem
    exact ⟨mem_keys_iff.2 ⟨password, mem⟩, lastGiven?_of_mem mem⟩
  · rintro ⟨present, given⟩
    obtain ⟨held, mem⟩ := mem_keys_iff.1 present
    rw [lastGiven?_of_mem mem] at given
    rwa [← Option.some.inj given]

section Arrival

variable {capacity : Nat} {history : List Call} {key : String}

theorem not_mem_keys_lastAbsent :
    key ∉ (after capacity (history.take (lastAbsent capacity history key))).keys :=
  Nat.findGreatest_spec (P := fun count => key ∉ (after capacity (history.take count)).keys)
    (Nat.zero_le _) List.not_mem_nil

theorem lastAbsent_le : lastAbsent capacity history key ≤ history.length :=
  Nat.findGreatest_le _

theorem lastAbsent_of_not_mem (absent : key ∉ (after capacity history).keys) :
    lastAbsent capacity history key = history.length := by
  apply Nat.findGreatest_eq
  rwa [List.take_length]

theorem lastAbsent_lt (present : key ∈ (after capacity history).keys) :
    lastAbsent capacity history key < history.length := by
  refine lt_of_le_of_ne lastAbsent_le fun last => ?_
  have absent : key ∉ (after capacity (history.take (lastAbsent capacity history key))).keys :=
    not_mem_keys_lastAbsent
  rw [last, List.take_length] at absent
  exact absent present

theorem lastAbsent_concat {call : Call}
    (present : key ∈ (after capacity (history ++ [call])).keys) :
    lastAbsent capacity (history ++ [call]) key = lastAbsent capacity history key := by
  have whole : (history ++ [call]).take (history.length + 1) = history ++ [call] :=
    List.take_of_length_le (by rw [List.length_append]; rfl)
  have before (count : Nat) (le : count ≤ history.length) :
      (history ++ [call]).take count = history.take count := List.take_append_of_le_length le
  rw [lastAbsent, List.length_append, List.length_singleton, Nat.findGreatest_of_not,
    Nat.findGreatest_eq_iff]
  · refine ⟨lastAbsent_le, fun _ => ?_, fun count later le absent => ?_⟩
    · rw [before _ lastAbsent_le]
      exact not_mem_keys_lastAbsent
    · rw [before count le] at absent
      exact Nat.findGreatest_is_greatest later le absent
  · rw [whole]
    exact not_not_intro present

theorem eq_insert_of_mem_requeue {order : List String} {call : Call} (absent : key ∉ order)
    (present : key ∈ call.requeue capacity order) : ∃ password, call = .insert key password := by
  cases call with
  | insert other password =>
    have longer := List.mem_of_mem_drop present
    split at longer
    · exact absurd longer absent
    · rw [List.mem_append, List.mem_singleton] at longer
      exact ⟨password, by rw [longer.resolve_left absent]⟩
  | remove => exact absurd (List.mem_filter.1 present).1 absent
  | verify => exact absurd present absent

/-- Whoever is there was inserted when it was last absent. -/
theorem getElem?_lastAbsent (present : key ∈ (after capacity history).keys) :
    ∃ password, history[lastAbsent capacity history key]? = some (.insert key password) := by
  induction history using List.reverseRecOn with
  | nil => cases present
  | append_singleton history call ih =>
    rw [lastAbsent_concat present]
    by_cases there : key ∈ (after capacity history).keys
    · rw [List.getElem?_append_left (lastAbsent_lt there)]
      exact ih there
    · rw [keys_after_concat] at present
      obtain ⟨password, rfl⟩ := eq_insert_of_mem_requeue there present
      rw [lastAbsent_of_not_mem there, List.getElem?_concat_length]
      exact ⟨password, rfl⟩

theorem requeue_sublist (capacity : Nat) (order : List String) (call : Call) :
    (call.requeue capacity order).Sublist order ∨
      ∃ key, key ∉ order ∧ (call.requeue capacity order).Sublist (order ++ [key]) := by
  cases call with
  | insert key password =>
    by_cases there : key ∈ order
    · left
      simp only [Call.requeue, if_pos there]
      exact List.drop_sublist _ _
    · right
      refine ⟨key, there, ?_⟩
      simp only [Call.requeue, if_neg there]
      exact List.drop_sublist _ _
  | remove => exact .inl List.filter_sublist
  | verify => exact .inl (List.Sublist.refl order)

/-- The queue stands in the order of the insertions that brought its keys in. -/
theorem pairwise_lastAbsent (capacity : Nat) (history : List Call) :
    (after capacity history).keys.Pairwise fun older newer =>
      lastAbsent capacity history older < lastAbsent capacity history newer := by
  induction history using List.reverseRecOn with
  | nil => exact .nil
  | append_singleton history call ih =>
    have ascending : (after capacity (history ++ [call])).keys.Pairwise fun older newer =>
        lastAbsent capacity history older < lastAbsent capacity history newer := by
      rw [keys_after_concat]
      rcases requeue_sublist capacity (after capacity history).keys call with
        kept | ⟨key, fresh, grown⟩
      · exact ih.sublist kept
      · refine List.Pairwise.sublist grown
          (List.pairwise_append.2 ⟨ih, List.pairwise_singleton _ _, ?_⟩)
        -- the new key was absent up to now, and nobody who is there was
        intro older there newer last
        rw [List.mem_singleton.1 last, lastAbsent_of_not_mem fresh]
        exact lastAbsent_lt there
    refine ascending.imp_of_mem fun older newer earlier => ?_
    rwa [lastAbsent_concat older, lastAbsent_concat newer]

end Arrival

end CredentialCache

/-- A cache in two parts. -/
structure CredentialTable where
  capacity : Nat
  passwords : Std.HashMap String String := ∅
  order : List String := []

namespace CredentialTable

open CredentialCache (Call)

def verify (table : CredentialTable) (key password : String) : Bool :=
  table.passwords[key]?.any (· == password)

def evict (capacity : Nat) (passwords : Std.HashMap String String) :
    List String → Std.HashMap String String × List String
  | [] => (passwords, [])
  | oldest :: rest =>
      if capacity < rest.length + 1 then evict capacity (passwords.erase oldest) rest
      else (passwords, oldest :: rest)

def insert (table : CredentialTable) (key password : String) : CredentialTable :=
  if table.capacity = 0 then table
  else
    let order := if key ∈ table.passwords then table.order else table.order ++ [key]
    let (passwords, order) := evict table.capacity (table.passwords.insert key password) order
    { table with passwords, order }

def remove (table : CredentialTable) (key : String) : CredentialTable :=
  if key ∈ table.passwords then
    { table with
      passwords := table.passwords.erase key
      order := table.order.filter (· != key) }
  else table

def apply (table : CredentialTable) : Call → CredentialTable
  | .insert key password => table.insert key password
  | .remove key => table.remove key
  | .verify _ _ => table

def after (capacity : Nat) (history : List Call) : CredentialTable :=
  history.foldl apply { capacity }

/-- Both parts say what the cache says. -/
structure Holds (table : CredentialTable) (cache : CredentialCache) : Prop where
  capacity : table.capacity = cache.capacity
  order : table.order = cache.keys
  passwords : ∀ key password : String,
    table.passwords[key]? = some password ↔ (key, password) ∈ cache.pairs

theorem evict_order (capacity : Nat) (passwords : Std.HashMap String String)
    (order : List String) :
    (evict capacity passwords order).2 = order.drop (order.length - capacity) := by
  induction order generalizing passwords with
  | nil => simp [evict]
  | cons oldest rest ih =>
    rw [evict, List.length_cons]
    split
    · next full =>
      have more : rest.length + 1 - capacity = rest.length - capacity + 1 := by omega
      rw [ih, more, List.drop_succ_cons]
    · next room => rw [Nat.sub_eq_zero_of_le (Nat.not_lt.1 room), List.drop_zero]

theorem getElem?_evict (capacity : Nat) (passwords : Std.HashMap String String)
    (order : List String) (key : String) :
    (evict capacity passwords order).1[key]? =
      if key ∈ order.take (order.length - capacity) then none else passwords[key]? := by
  induction order generalizing passwords with
  | nil => simp [evict]
  | cons oldest rest ih =>
    rw [evict, List.length_cons]
    split
    · next full =>
      have more : rest.length + 1 - capacity = rest.length - capacity + 1 := by omega
      rw [ih, more, List.take_succ_cons, Std.HashMap.getElem?_erase]
      by_cases same : oldest = key
      · simp [same]
      · simp [same, Ne.symm same]
    · next room =>
      rw [Nat.sub_eq_zero_of_le (Nat.not_lt.1 room), List.take_zero, if_neg List.not_mem_nil]

theorem mem_drop_iff {pairs : List (String × String)} (distinct : (pairs.map (·.1)).Nodup)
    (count : Nat) {pair : String × String} :
    pair ∈ pairs.drop count ↔ pair.1 ∉ (pairs.map (·.1)).take count ∧ pair ∈ pairs := by
  rw [← List.take_append_drop count pairs, List.map_append, List.nodup_append] at distinct
  obtain ⟨-, -, apart⟩ := distinct
  rw [← List.map_take]
  constructor
  · intro mem
    exact ⟨fun front => apart _ front _ (List.mem_map_of_mem mem) rfl, List.mem_of_mem_drop mem⟩
  · rintro ⟨other, mem⟩
    rw [← List.take_append_drop count pairs, List.mem_append] at mem
    exact mem.resolve_left fun front => other (List.mem_map_of_mem front)

variable {table : CredentialTable} {cache : CredentialCache}

theorem Holds.mem_iff (holds : table.Holds cache) {key : String} :
    key ∈ table.passwords ↔ key ∈ cache.keys := by
  rw [Std.HashMap.mem_iff_isSome_getElem?, Option.isSome_iff_exists, CredentialCache.mem_keys_iff]
  exact exists_congr fun password => holds.passwords key password

theorem Holds.verify_eq (holds : table.Holds cache) (key password : String) :
    table.verify key password = cache.verify key password := by
  rw [Bool.eq_iff_iff, CredentialCache.verify_iff_mem, ← holds.passwords, verify]
  cases table.passwords[key]? <;> simp

theorem holds_empty (capacity : Nat) : Holds { capacity } (.empty capacity) := by
  refine ⟨rfl, rfl, fun key password => ?_⟩
  simp [CredentialCache.empty]

theorem Holds.of_pairs (holds : table.Holds cache) {cache' : CredentialCache}
    (capacity : cache'.capacity = cache.capacity) (pairs : cache'.pairs = cache.pairs) :
    table.Holds cache' := by
  refine ⟨holds.capacity.trans capacity.symm, ?_, ?_⟩
  · rw [CredentialCache.keys, pairs]
    exact holds.order
  · rw [pairs]
    exact holds.passwords

theorem pairs_eq_nil {cache : CredentialCache} (none : cache.capacity = 0) : cache.pairs = [] := by
  have bounded := cache.bounded
  rw [none] at bounded
  exact List.length_eq_zero_iff.1 (Nat.le_zero.1 bounded)

theorem Holds.insert (holds : table.Holds cache) (key password : String) :
    (table.insert key password).Holds (cache.insert key password) := by
  rw [CredentialTable.insert]
  by_cases none : table.capacity = 0
  · -- one of the two does nothing, the other drops what it has put in
    have none' : cache.capacity = 0 := holds.capacity ▸ none
    have none'' : (cache.insert key password).capacity = 0 := none'
    rw [if_pos none]
    exact holds.of_pairs rfl ((pairs_eq_nil none'').trans (pairs_eq_nil none').symm)
  · -- before anything is dropped both have the same keys, so they drop the same ones
    have longer : (if key ∈ table.passwords then table.order else table.order ++ [key]) =
        (CredentialCache.put key password cache.pairs).map (·.1) := by
      simp only [CredentialCache.keys_put, holds.mem_iff, holds.order]
      rfl
    have distinct : ((CredentialCache.put key password cache.pairs).map (·.1)).Nodup :=
      CredentialCache.nodup_put cache.distinct
    rw [if_neg none]
    refine ⟨holds.capacity, ?_, fun key' password' => ?_⟩
    · simp only [longer, evict_order, holds.capacity, List.length_map]
      exact (List.map_drop ..).symm
    · simp only [longer, getElem?_evict, holds.capacity, List.length_map]
      rw [CredentialCache.insert, mem_drop_iff distinct,
        CredentialCache.mem_put_iff cache.distinct, ← holds.passwords, Std.HashMap.getElem?_insert]
      split
      · next gone => simp [gone]
      · next kept =>
        by_cases same : key = key'
        · subst same
          simp [kept, eq_comm]
        · simp [kept, same, Ne.symm same]

theorem Holds.remove (holds : table.Holds cache) (key : String) :
    (table.remove key).Holds (cache.remove key) := by
  rw [CredentialTable.remove]
  split
  · refine ⟨holds.capacity, ?_, fun key' password => ?_⟩
    · rw [holds.order]
      exact (CredentialCache.keys_apply cache (.remove key)).symm
    · rw [Std.HashMap.getElem?_erase, CredentialCache.remove, List.mem_filter, ← holds.passwords]
      by_cases same : key = key'
      · simp [same]
      · simp [same, Ne.symm same]
  · next absent =>
    refine holds.of_pairs rfl (List.filter_eq_self.2 fun pair mem => ?_)
    rw [bne_iff_ne]
    rintro rfl
    exact absent (holds.mem_iff.2 (List.mem_map_of_mem mem))

theorem Holds.apply (holds : table.Holds cache) (call : Call) :
    (table.apply call).Holds (cache.apply call) := by
  cases call with
  | insert key password => exact holds.insert key password
  | remove key => exact holds.remove key
  | verify => exact holds

theorem holds_after (capacity : Nat) (history : List Call) :
    (after capacity history).Holds (.after capacity history) := by
  induction history using List.reverseRecOn with
  | nil => exact holds_empty capacity
  | append_singleton history call ih =>
    rw [CredentialCache.after_concat, after, List.foldl_append]
    exact ih.apply call

/-- A map that lets the oldest keys go when there are more than `capacity`, after these calls. -/
structure IsBoundedQueue (table : CredentialTable) (capacity : Nat) (history : List Call) :
    Prop where
  mem_order_iff : ∀ key, key ∈ table.order ↔ key ∈ table.passwords
  nodup : table.order.Nodup
  bounded : table.order.length ≤ capacity
  inserted : ∀ key ∈ table.order, ∃ password,
    history[CredentialCache.lastAbsent capacity history key]? = some (.insert key password)
  ordered : table.order.Pairwise fun older newer =>
    CredentialCache.lastAbsent capacity history older <
      CredentialCache.lastAbsent capacity history newer
  requeued : ∀ call : Call, (table.apply call).order = call.requeue capacity table.order
  verify_iff : ∀ key password, table.verify key password = true ↔
    key ∈ table.order ∧ CredentialCache.lastGiven? history key = some password
  empty : capacity = 0 → table.order = [] ∧ table.passwords.isEmpty = true

theorem isBoundedQueue_of_holds {capacity : Nat} {history : List Call}
    (holds : table.Holds (.after capacity history)) : table.IsBoundedQueue capacity history := by
  have room := CredentialCache.capacity_after capacity history
  have bounded : table.order.length ≤ capacity := by
    rw [holds.order, CredentialCache.keys, List.length_map]
    exact Nat.le_trans (CredentialCache.after capacity history).bounded (Nat.le_of_eq room)
  have same (key : String) : key ∈ table.order ↔ key ∈ table.passwords := by
    rw [holds.order, holds.mem_iff]
  refine ⟨same, ?_, bounded, ?_, ?_, ?_, ?_, ?_⟩
  · rw [holds.order]
    exact (CredentialCache.after capacity history).distinct
  · intro key present
    rw [holds.order] at present
    exact CredentialCache.getElem?_lastAbsent present
  · rw [holds.order]
    exact CredentialCache.pairwise_lastAbsent capacity history
  · intro call
    rw [(holds.apply call).order, CredentialCache.keys_apply, room, holds.order]
  · intro key password
    rw [holds.verify_eq, CredentialCache.verify_after_iff, holds.order]
  · rintro rfl
    have order := List.length_eq_zero_iff.1 (Nat.le_zero.1 bounded)
    refine ⟨order, Std.HashMap.isEmpty_iff_forall_not_mem.2 fun key mem => ?_⟩
    rw [← same, order] at mem
    exact List.not_mem_nil mem

end CredentialTable

def Shared.after (shared : Shared) (questions : List Backend.Question) : Shared :=
  questions.foldl (fun shared question => (Shared.answer question shared).2) shared

theorem Shared.cache_answer (question : Backend.Question) (shared : Shared) :
    (Shared.answer question shared).2.cache = shared.cache.map fun cache =>
      (CredentialCache.Call.ofQuestion? question).elim cache cache.apply := by
  cases question with
  | remember | forget => rfl
  | «recall» | listEntries | getEntry | verifyPassword | password =>
    exact (Option.map_id' (x := shared.cache)).symm

theorem Shared.cache_after (directory : Directory) (capacity : Nat)
    (questions : List Backend.Question) :
    (Shared.after { directory, cache := some (.empty capacity) } questions).cache =
      some (.after capacity (questions.filterMap CredentialCache.Call.ofQuestion?)) := by
  induction questions using List.reverseRecOn with
  | nil => rfl
  | append_singleton questions question ih =>
    rw [Shared.after, List.foldl_concat, ← Shared.after, Shared.cache_answer, ih,
      List.filterMap_append, Option.map_some]
    cases call : CredentialCache.Call.ofQuestion? question with
    | some call' =>
      rw [List.filterMap_cons_some call, List.filterMap_nil, CredentialCache.after_concat]
      rfl
    | none =>
      rw [List.filterMap_cons_none call, List.filterMap_nil, List.append_nil]
      rfl

theorem CredentialTable.after_isBoundedQueue (capacity : Nat)
    (history : List CredentialCache.Call) :
    (after capacity history).IsBoundedQueue capacity history ∧
    (after capacity history).Holds (.after capacity history) ∧
    (∀ key password, (after capacity history).verify key password =
      (CredentialCache.after capacity history).verify key password) ∧
    ∀ (directory : Directory) (questions : List Backend.Question),
      (Shared.after { directory, cache := some (.empty capacity) } questions).cache =
        some (.after capacity (questions.filterMap CredentialCache.Call.ofQuestion?)) :=
  have holds := holds_after capacity history
  ⟨isBoundedQueue_of_holds holds, holds, holds.verify_eq, fun directory questions =>
    Shared.cache_after directory capacity questions⟩

end LdapService

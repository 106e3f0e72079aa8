import LdapService.Matching.Registry
import LdapService.Proofs.Keys
import Mathlib.Data.List.Pairwise

/-!
Which lists of rules make a registry, and what is found in it. Names and object identifiers are
keys of one kind. A registry is refused for the first key that an earlier one is the same as, and
otherwise both keys of a rule find it.

The same is shown of a table that is filled key by key and holds positions of rules: nothing in
its types keeps it in step with the rules. What has been entered so far is the invariant; a
position at which there is no rule is a failure of its own, and never comes up.
-/

namespace LdapService.Matching

inductive Key where
  | name (text : String)
  | oid (text : String)

namespace Key

def text : Key → String
  | name text => text
  | oid text => text

def conflict : Key → Conflict
  | name text => .duplicateName text
  | oid text => .duplicateOid text

end Key

def Rule.registered (rule : Rule) : List Key :=
  [.name rule.name, .oid rule.oid]

theorem Rule.mem_keys {rule : Rule} {key : String} :
    key ∈ rule.keys ↔ rule.name = key ∨ rule.oid = key := by
  simp only [keys, List.mem_cons, List.not_mem_nil, or_false, eq_comm]

theorem text_registered (rules : List Rule) :
    (rules.flatMap Rule.registered).map Key.text = rules.flatMap Rule.keys := by
  rw [List.map_flatMap]
  rfl

namespace Registry

variable {rules : List Rule} {registry : Registry}

theorem conflict?_eq (earlier : List String) (rules : List Rule) :
    conflict? earlier rules =
      (firstRepeated? Key.text earlier (rules.flatMap Rule.registered)).map Key.conflict := by
  induction rules generalizing earlier with
  | nil => rfl
  | cons rule rest ih =>
    change _ = (firstRepeated? Key.text earlier
      (.name rule.name :: .oid rule.oid :: rest.flatMap Rule.registered)).map Key.conflict
    rw [conflict?, firstRepeated?, firstRepeated?, ih]
    by_cases name : rule.name ∈ earlier
    · rw [if_pos name, if_pos (show Key.text (.name rule.name) ∈ earlier from name)]
      rfl
    rw [if_neg name, if_neg (show Key.text (.name rule.name) ∉ earlier from name)]
    have known : Key.text (.oid rule.oid) ∈ Key.text (.name rule.name) :: earlier ↔
        rule.oid = rule.name ∨ rule.oid ∈ earlier := List.mem_cons
    by_cases oid : rule.oid = rule.name ∨ rule.oid ∈ earlier
    · rw [if_pos oid, if_pos (known.2 oid)]
      rfl
    · rw [if_neg oid, if_neg (mt known.1 oid)]
      rfl

theorem build_of_conflict {conflict : Conflict} (h : conflict? [] rules = some conflict) :
    build rules = .error conflict := by
  unfold build
  split
  · next distinct => cases distinct.symm.trans h
  · next found =>
    cases found.symm.trans h
    rfl

theorem build_of_distinct (h : conflict? [] rules = none) :
    ∃ registry, build rules = .ok registry ∧ registry.rules = rules := by
  unfold build
  split
  · exact ⟨_, rfl, rfl⟩
  · next found => cases found.symm.trans h

theorem eq_of_mem_keys (distinct : (rules.flatMap Rule.keys).Nodup) {rule other : Rule}
    (mem : rule ∈ rules) (mem' : other ∈ rules) {key : String} (has : key ∈ rule.keys)
    (has' : key ∈ other.keys) : rule = other := by
  by_contra different
  have apart := (List.nodup_flatMap.1 distinct).2
  have symm : Std.Symm (Function.onFun List.Disjoint Rule.keys) :=
    ⟨fun _ _ disjoint _ here there => disjoint there here⟩
  exact apart.forall mem mem' different has has'

theorem find?_eq_some_iff {key : String} {rule : Rule} :
    registry.find? key = some rule ↔ rule ∈ registry.rules ∧ key ∈ rule.keys := by
  have judged (other : Rule) : (other.name == key || other.oid == key) = true ↔ key ∈ other.keys := by
    rw [Rule.mem_keys, Bool.or_eq_true, beq_iff_eq, beq_iff_eq]
  have sound {other : Rule} (found : registry.find? key = some other) :
      other ∈ registry.rules ∧ key ∈ other.keys := by
    have has := List.find?_some (p := fun rule : Rule => rule.name == key || rule.oid == key) found
    exact ⟨List.mem_of_find?_eq_some found, (judged other).1 has⟩
  refine ⟨sound, ?_⟩
  rintro ⟨mem, has⟩
  cases found : registry.find? key with
  | none => exact absurd ((judged rule).2 has) (List.find?_eq_none.1 found rule mem)
  | some other =>
    obtain ⟨mem', has'⟩ := sound found
    rw [eq_of_mem_keys registry.distinct mem mem' has has']

/-- The registry has these rules, and each is found by its two keys and by nothing else. -/
structure Knows (registry : Registry) (rules : List Rule) : Prop where
  same : registry.rules = rules
  find?_some : ∀ key rule, registry.find? key = some rule ↔
    rule ∈ rules ∧ (rule.name = key ∨ rule.oid = key)
  find?_none : ∀ key, registry.find? key = none ↔
    ∀ rule ∈ rules, rule.name ≠ key ∧ rule.oid ≠ key
  both : ∀ rule ∈ rules,
    registry.find? rule.name = some rule ∧ registry.find? rule.oid = some rule

theorem knows_rules (registry : Registry) : registry.Knows registry.rules where
  same := rfl
  find?_some key rule := by rw [find?_eq_some_iff, Rule.mem_keys]
  find?_none key := by
    simp only [Option.eq_none_iff_forall_ne_some, ne_eq, find?_eq_some_iff, Rule.mem_keys,
      not_and, not_or]
  both rule mem :=
    ⟨find?_eq_some_iff.2 ⟨mem, Rule.mem_keys.2 (.inl rfl)⟩,
      find?_eq_some_iff.2 ⟨mem, Rule.mem_keys.2 (.inr rfl)⟩⟩

end Registry

structure RuleTable where
  rules : Array Rule
  positions : Std.HashMap String Nat

namespace RuleTable

def enter (positions : Std.HashMap String Nat) (key : Key) (position : Nat) :
    Except Conflict (Std.HashMap String Nat) :=
  let (known, positions) := positions.containsThenInsert key.text position
  if known then .error key.conflict else .ok positions

def enterRule (positions : Std.HashMap String Nat) (placed : Rule × Nat) :
    Except Conflict (Std.HashMap String Nat) := do
  let positions ← enter positions (.name placed.1.name) placed.2
  enter positions (.oid placed.1.oid) placed.2

def ofRules (rules : List Rule) : Except Conflict RuleTable := do
  let positions ← rules.zipIdx.foldlM enterRule ∅
  return { rules := rules.toArray, positions }

def find? (table : RuleTable) (key : String) : Except Nat (Option Rule) :=
  match table.positions[key]? with
  | none => .ok none
  | some position =>
      match table.rules[position]? with
      | some rule => .ok (some rule)
      | none => .error position

def entries (placed : List (Rule × Nat)) : List (Key × Nat) :=
  placed.flatMap fun rule => rule.1.registered.map fun key => (key, rule.2)

structure Hold (positions : Std.HashMap String Nat) (entered : List (Key × Nat)) : Prop where
  distinct : (entered.map fun entry => entry.1.text).Nodup
  positions : ∀ (text : String) (position : Nat), positions[text]? = some position ↔
    ∃ entry ∈ entered, entry.1.text = text ∧ entry.2 = position

section Enter

variable {positions : Std.HashMap String Nat} {entered : List (Key × Nat)}

theorem hold_empty : Hold ∅ [] := by
  refine ⟨List.nodup_nil, fun text position => ?_⟩
  simp

theorem Hold.mem_iff (hold : Hold positions entered) {text : String} :
    text ∈ positions ↔ text ∈ entered.map fun entry => entry.1.text := by
  rw [Std.HashMap.mem_iff_isSome_getElem?, Option.isSome_iff_exists, List.mem_map]
  simp only [hold.positions]
  constructor
  · rintro ⟨_, entry, mem, same, -⟩
    exact ⟨entry, mem, same⟩
  · rintro ⟨entry, mem, same⟩
    exact ⟨entry.2, entry, mem, same, rfl⟩

theorem enter_eq (positions : Std.HashMap String Nat) (key : Key) (position : Nat) :
    enter positions key position =
      if key.text ∈ positions then .error key.conflict
      else .ok (positions.insert key.text position) := by
  simp only [enter, Std.HashMap.containsThenInsert_fst, Std.HashMap.containsThenInsert_snd,
    Std.HashMap.contains_iff_mem]

theorem Hold.insert (hold : Hold positions entered) {entry : Key × Nat}
    (fresh : entry.1.text ∉ entered.map fun entry => entry.1.text) :
    Hold (positions.insert entry.1.text entry.2) (entered ++ [entry]) := by
  constructor
  · rw [List.map_append, List.map_singleton, ← List.concat_eq_append]
    exact hold.distinct.concat fresh
  · intro text position
    rw [Std.HashMap.getElem?_insert]
    simp only [List.mem_append, List.mem_singleton, or_and_right, exists_or, exists_eq_left]
    by_cases same : entry.1.text = text
    · have absent : ¬∃ other ∈ entered, other.1.text = text ∧ other.2 = position := by
        rintro ⟨other, mem, same', -⟩
        exact fresh (List.mem_map.2 ⟨other, mem, same'.trans same.symm⟩)
      simp only [same, beq_self_eq_true, if_true, absent, false_or, true_and, Option.some.injEq]
    · simp only [beq_eq_false_iff_ne.2 same, Bool.false_eq_true, if_false, same, false_and,
        or_false, hold.positions]

/-- Entering goes on up to the first key that is there already. -/
theorem Hold.foldlM_enter (hold : Hold positions entered) {earlier : List String}
    (keys : ∀ text, text ∈ earlier ↔ text ∈ entered.map fun entry => entry.1.text)
    (rest : List (Key × Nat)) :
    match firstRepeated? (fun entry : Key × Nat => entry.1.text) earlier rest with
    | some entry =>
        rest.foldlM (fun positions entry => enter positions entry.1 entry.2) positions =
          .error entry.1.conflict
    | none => ∃ positions',
        rest.foldlM (fun positions entry => enter positions entry.1 entry.2) positions =
          .ok positions' ∧ Hold positions' (entered ++ rest) := by
  induction rest generalizing positions entered earlier with
  | nil => exact ⟨positions, rfl, by rwa [List.append_nil]⟩
  | cons entry rest ih =>
    rw [firstRepeated?, List.foldlM_cons, enter_eq]
    by_cases repeated : entry.1.text ∈ earlier
    · rw [if_pos repeated, if_pos (hold.mem_iff.2 ((keys _).1 repeated))]
      rfl
    · have fresh := mt (keys _).2 repeated
      have keys' : ∀ text, text ∈ entry.1.text :: earlier ↔
          text ∈ (entered ++ [entry]).map fun entry => entry.1.text := by
        intro text
        rw [List.map_append, List.map_singleton, List.mem_append, List.mem_singleton,
          List.mem_cons, keys, or_comm]
      have later := ih (hold.insert fresh) keys'
      rw [if_neg repeated, if_neg (mt hold.mem_iff.1 fresh), List.append_cons]
      exact later

theorem foldlM_enterRule (placed : List (Rule × Nat)) (positions : Std.HashMap String Nat) :
    placed.foldlM enterRule positions =
      (entries placed).foldlM (fun positions entry => enter positions entry.1 entry.2) positions := by
  induction placed generalizing positions with
  | nil => rfl
  | cons rule rest ih =>
    rw [entries, List.flatMap_cons, List.foldlM_append, List.foldlM_cons]
    have here : enterRule positions rule = (rule.1.registered.map fun key => (key, rule.2)).foldlM
        (fun positions entry => enter positions entry.1 entry.2) positions := by
      simp only [enterRule, Rule.registered, List.map_cons, List.map_nil, List.foldlM_cons,
        List.foldlM_nil, bind_pure]
    rw [here]
    exact bind_congr ih

end Enter

section Rules

variable {rules : List Rule}

theorem map_entries (placed : List (Rule × Nat)) :
    (entries placed).map Prod.fst = (placed.map Prod.fst).flatMap Rule.registered := by
  rw [entries, List.map_flatMap, List.flatMap_map]
  rfl

theorem ofRules_eq (rules : List Rule) :
    match Registry.conflict? [] rules with
    | some conflict => ofRules rules = .error conflict
    | none => ∃ table, ofRules rules = .ok table ∧ table.rules = rules.toArray ∧
        Hold table.positions (entries rules.zipIdx) := by
  have run := hold_empty.foldlM_enter (fun _ => Iff.rfl) (entries rules.zipIdx)
  have found := firstRepeated?_map Key.text Prod.fst [] (entries rules.zipIdx)
  rw [map_entries, List.zipIdx_map_fst] at found
  rw [Registry.conflict?_eq, found, ofRules, foldlM_enterRule]
  rw [List.map_nil] at run
  cases repeats : firstRepeated? (fun entry : Key × Nat => entry.1.text) [] (entries rules.zipIdx) with
  | some entry =>
    simp only [repeats] at run
    rw [run]
    rfl
  | none =>
    simp only [repeats] at run
    obtain ⟨positions, filled, hold⟩ := run
    rw [filled]
    exact ⟨_, rfl, rfl, hold⟩

theorem mem_entries_iff {key : Key} {position : Nat} :
    (key, position) ∈ entries rules.zipIdx ↔
      ∃ rule, rules[position]? = some rule ∧ key ∈ rule.registered := by
  simp only [entries, List.mem_flatMap, List.mem_map, Prod.exists, Prod.mk.injEq,
    List.mem_zipIdx_iff_getElem?]
  constructor
  · rintro ⟨rule, _, there, _, mem, rfl, rfl⟩
    exact ⟨rule, there, mem⟩
  · rintro ⟨rule, there, mem⟩
    exact ⟨rule, position, there, key, mem, rfl, rfl⟩

theorem mem_text_registered {rule : Rule} {text : String} :
    (∃ key ∈ rule.registered, key.text = text) ↔ text ∈ rule.keys := by
  rw [← List.mem_map]
  rfl

theorem Hold.position_iff {positions : Std.HashMap String Nat}
    (hold : Hold positions (entries rules.zipIdx)) {text : String} {position : Nat} :
    positions[text]? = some position ↔
      ∃ rule, rules[position]? = some rule ∧ text ∈ rule.keys := by
  rw [hold.positions]
  simp only [← mem_text_registered]
  constructor
  · rintro ⟨⟨key, _⟩, mem, same, rfl⟩
    obtain ⟨rule, there, has⟩ := mem_entries_iff.1 mem
    exact ⟨rule, there, key, has, same⟩
  · rintro ⟨rule, there, key, has, same⟩
    exact ⟨(key, position), mem_entries_iff.2 ⟨rule, there, has⟩, same, rfl⟩

theorem find?_eq {table : RuleTable} {registry : Registry} (listed : table.rules = rules.toArray)
    (hold : Hold table.positions (entries rules.zipIdx)) (same : registry.rules = rules)
    (key : String) : table.find? key = .ok (registry.find? key) := by
  unfold find?
  cases found : table.positions[key]? with
  | none =>
    have absent : registry.find? key = none := by
      rw [Option.eq_none_iff_forall_ne_some]
      intro rule present
      obtain ⟨mem, has⟩ := Registry.find?_eq_some_iff.1 present
      obtain ⟨position, there⟩ := List.mem_iff_getElem?.1 (same ▸ mem)
      have known := hold.position_iff.2 ⟨rule, there, has⟩
      rw [found] at known
      cases known
    rw [absent]
  | some position =>
    obtain ⟨rule, there, has⟩ := hold.position_iff.1 found
    have present : registry.find? key = some rule :=
      Registry.find?_eq_some_iff.2 ⟨same ▸ List.mem_of_getElem? there, has⟩
    have placed : table.rules[position]? = some rule := by
      rw [listed, List.getElem?_toArray, there]
    simp only [placed, present]

end Rules

end RuleTable

namespace Registry

/-- A list of rules is a registry exactly if no key in it is the same as another, a name or an
object identifier, of one rule or of two. It is refused for the first key that repeats an earlier one,
as what that is there; otherwise each rule is found by both of its keys, and nothing by any other.
A table that is filled key by key comes to the same, and never leads to where no rule is. -/
theorem build_iff_distinct (rules : List Rule) :
    ((∃ registry, build rules = .ok registry) ↔ (rules.flatMap Rule.keys).Nodup) ∧
    (∀ conflict, build rules = .error conflict ↔
      ∃ key, IsFirstRepeated Key.text (rules.flatMap Rule.registered) key ∧
        conflict = key.conflict) ∧
    (∀ registry, build rules = .ok registry → registry.Knows rules) ∧
    match build rules with
    | .error conflict => RuleTable.ofRules rules = .error conflict
    | .ok registry => ∃ table, RuleTable.ofRules rules = .ok table ∧
        table.rules.toList = rules ∧ ∀ key, table.find? key = .ok (registry.find? key) := by
  have found := conflict?_eq [] rules
  have filled := RuleTable.ofRules_eq rules
  rw [← text_registered, ← firstRepeated?_eq_none_iff]
  simp only [← firstRepeated?_eq_some_iff]
  cases repeats : firstRepeated? Key.text [] (rules.flatMap Rule.registered) with
  | some key =>
    rw [repeats] at found
    have refused := build_of_conflict found
    rw [found] at filled
    rw [refused]
    refine ⟨iff_of_false nofun nofun, fun conflict => ?_, nofun, filled⟩
    simp only [Except.error.injEq, Option.some.injEq, exists_eq_left', eq_comm]
  | none =>
    rw [repeats] at found
    obtain ⟨registry, built, same⟩ := build_of_distinct found
    obtain ⟨table, made, listed, hold⟩ : ∃ table, RuleTable.ofRules rules = .ok table ∧ _ := by
      rw [found] at filled
      exact filled
    rw [built]
    refine ⟨iff_of_true ⟨_, rfl⟩ rfl, fun conflict => ?_, ?_, table, made, ?_, ?_⟩
    · exact iff_of_false nofun fun ⟨_, found, _⟩ => nomatch found
    · rintro _ ⟨⟩
      rw [← same]
      exact knows_rules registry
    · rw [listed, List.toList_toArray]
    · exact RuleTable.find?_eq listed hold same

theorem build_iff_distinct_samples :
    build [⟨"a", "1", .exact⟩, ⟨"1", "2", .exact⟩] = .error (.duplicateName "1") ∧
    build [⟨"a", "a", .exact⟩] = .error (.duplicateOid "a") ∧
    ∃ registry, build standardRules = .ok registry ∧ registry.Knows standardRules := by
  obtain ⟨-, nameOfOid, -⟩ := build_iff_distinct [⟨"a", "1", .exact⟩, ⟨"1", "2", .exact⟩]
  obtain ⟨-, ownOid, -⟩ := build_iff_distinct [⟨"a", "a", .exact⟩]
  obtain ⟨built, -, knows, -⟩ := build_iff_distinct standardRules
  refine ⟨(nameOfOid _).2 ⟨.name "1", ?_, rfl⟩, (ownOid _).2 ⟨.oid "a", ?_, rfl⟩, ?_⟩
  · exact ⟨[.name "a", .oid "1"], [.oid "2"], rfl, by decide, by decide⟩
  · exact ⟨[.name "a"], [], rfl, by decide, by decide⟩
  · obtain ⟨registry, made⟩ := built.2 standardRules_distinct
    exact ⟨registry, made, knows registry made⟩

end Registry

end LdapService.Matching

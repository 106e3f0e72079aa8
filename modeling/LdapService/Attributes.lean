import LdapService.Text.Ascii

/-!
Attribute maps. Names are strictly ascending in code-point order, which is
the order of their UTF-8 octets, so a map has one form and equality of maps
is equality of their listings. Values of a name keep their order.
-/

namespace LdapService

structure Attributes where
  pairs : List (String × List String)
  ascending : pairs.Pairwise fun first second => first.1 < second.1

namespace Attributes

instance : DecidableEq Attributes := fun first second =>
  if h : first.pairs = second.pairs then
    isTrue (by cases first; cases second; simp_all)
  else isFalse fun equal => h (equal ▸ rfl)

def empty : Attributes := ⟨[], .nil⟩

instance : Inhabited Attributes := ⟨empty⟩

def alterPairs (name : String) (change : List String → List String) :
    List (String × List String) → List (String × List String)
  | [] => [(name, change [])]
  | pair :: rest =>
      if name < pair.1 then (name, change []) :: pair :: rest
      else if pair.1 = name then (name, change pair.2) :: rest
      else pair :: alterPairs name change rest

theorem mem_alterPairs {name : String} {change : List String → List String}
    {pairs : List (String × List String)} {pair : String × List String}
    (h : pair ∈ alterPairs name change pairs) : pair.1 = name ∨ pair ∈ pairs := by
  induction pairs with
  | nil => simp_all [alterPairs]
  | cons head rest ih =>
    simp only [alterPairs] at h
    split at h
    · rcases List.mem_cons.1 h with rfl | h
      · exact .inl rfl
      · exact .inr h
    · split at h
      · rcases List.mem_cons.1 h with rfl | h
        · exact .inl rfl
        · exact .inr (List.mem_cons_of_mem _ h)
      · rcases List.mem_cons.1 h with rfl | h
        · exact .inr List.mem_cons_self
        · exact (ih h).imp id (List.mem_cons_of_mem _)

theorem lt_of_not_lt_of_ne {first second : String} (not_lt : ¬first < second)
    (ne : second ≠ first) : second < first :=
  Decidable.byContradiction fun not_gt =>
    ne (String.le_antisymm (String.not_lt.1 not_lt) (String.not_lt.1 not_gt))

theorem ascending_alterPairs (name : String) (change : List String → List String)
    {pairs : List (String × List String)}
    (h : pairs.Pairwise fun first second => first.1 < second.1) :
    (alterPairs name change pairs).Pairwise fun first second => first.1 < second.1 := by
  induction pairs with
  | nil => simp [alterPairs]
  | cons head rest ih =>
    obtain ⟨below, sorted⟩ := List.pairwise_cons.1 h
    simp only [alterPairs]
    split
    · next lt =>
      refine List.pairwise_cons.2 ⟨fun pair mem => ?_, h⟩
      rcases List.mem_cons.1 mem with rfl | mem
      · exact lt
      · exact String.lt_trans lt (below pair mem)
    · next not_lt =>
      split
      · next same =>
        exact List.pairwise_cons.2 ⟨fun pair mem => same ▸ below pair mem, sorted⟩
      · next ne =>
        refine List.pairwise_cons.2 ⟨fun pair mem => ?_, ih sorted⟩
        rcases mem_alterPairs mem with same | mem
        · exact same ▸ lt_of_not_lt_of_ne not_lt ne
        · exact below pair mem

def alter (name : String) (change : List String → List String) (attributes : Attributes) :
    Attributes :=
  ⟨alterPairs name change attributes.pairs, ascending_alterPairs name change attributes.ascending⟩

def append (name : String) (values : List String) (attributes : Attributes) : Attributes :=
  attributes.alter name (· ++ values)

def insert (name : String) (values : List String) (attributes : Attributes) : Attributes :=
  attributes.alter name fun _ => values

def get? (attributes : Attributes) (name : String) : Option (List String) :=
  (attributes.pairs.find? fun pair => pair.1 == name).map (·.2)

/-- Values of the first name that is the same but for the case of ASCII letters. -/
def getIgnoringCase? (attributes : Attributes) (name : String) : Option (List String) :=
  (attributes.pairs.find? fun pair => Text.sameName pair.1 name).map (·.2)

def filter (keep : String → Bool) (attributes : Attributes) : Attributes :=
  ⟨attributes.pairs.filter fun pair => keep pair.1, attributes.ascending.filter _⟩

/-- Adds up pairs from the left; a repeated name collects its values. -/
def ofPairs (pairs : List (String × List String)) : Attributes :=
  pairs.foldl (fun attributes pair => attributes.append pair.1 pair.2) empty

end Attributes

structure Entry where
  dn : String
  attributes : Attributes := .empty
  deriving DecidableEq, Inhabited

namespace Entry

def add (name value : String) (entry : Entry) : Entry :=
  { entry with attributes := entry.attributes.append name [value] }

def get? (entry : Entry) (name : String) : Option (List String) :=
  entry.attributes.getIgnoringCase? name

end Entry

end LdapService

import LdapService.Proofs.Directory.Agreement
import LdapService.Proofs.Directory.Passwords
import LdapService.Proofs.Keys

/-!
A directory and its records. It is refused for the first record whose normalized name an
earlier one has, and otherwise it shows the records in their order and finds each under any
spelling of its name, with its password.

The same is shown of a directory that is filled record by record: entries by their position,
a table of positions by normalized name, and a table of passwords apart from both. Nothing in
its types keeps the three in step; that every record does is the invariant here. A position
that no entry has is a failure of its own, and never comes up.
-/

namespace LdapService

structure DirectoryTables where
  entries : Array Entry := #[]
  positions : Std.HashMap String Nat := ∅
  passwords : Std.HashMap String String := ∅

namespace DirectoryTables

def add (tables : DirectoryTables) (record : Record) : Except ServiceError DirectoryTables :=
  if record.key ∈ tables.positions then .error (.directory s!"Duplicate entry {record.dn}")
  else .ok {
    entries := tables.entries.push { dn := record.dn, attributes := record.attributes }
    positions := tables.positions.insert record.key tables.entries.size
    passwords := match record.password with
      | some password => tables.passwords.insert record.key password
      | none => tables.passwords }

def ofRecords (records : List Record) : Except ServiceError DirectoryTables :=
  records.foldlM add {}

structure Dangling where
  position : Nat
  deriving DecidableEq, Repr

def get? (tables : DirectoryTables) (dn : String) : Except Dangling (Option Entry) :=
  match tables.positions[Dn.normalize dn]? with
  | none => .ok none
  | some position =>
      match tables.entries[position]? with
      | some entry => .ok (some entry)
      | none => .error ⟨position⟩

def password? (tables : DirectoryTables) (dn : String) : Option String :=
  tables.passwords[Dn.normalize dn]?

def verifyPassword (tables : DirectoryTables) (dn password : String) : Bool :=
  tables.passwords[Dn.normalize dn]?.any (· == password)

/-- The tables say what these records say. -/
structure Hold (tables : DirectoryTables) (records : List Record) : Prop where
  distinct : (records.map Record.key).Nodup
  entries : tables.entries.toList = records.map fun record => (StoredEntry.ofRecord record).entry
  positions : ∀ (key : String) (position : Nat), tables.positions[key]? = some position ↔
    (records.map Record.key)[position]? = some key
  passwords : ∀ key password : String, tables.passwords[key]? = some password ↔
    ∃ record ∈ records, record.key = key ∧ record.password = some password

variable {tables : DirectoryTables} {records : List Record}

theorem getElem?_concat_iff {α : Type} {items : List α} {item other : α} {position : Nat} :
    (items ++ [item])[position]? = some other ↔
      items[position]? = some other ∨ position = items.length ∧ item = other := by
  rw [List.getElem?_append]
  grind

theorem hold_empty : Hold {} [] := by
  refine ⟨List.nodup_nil, rfl, ?_, ?_⟩
  · intro key position
    simp
  · intro key password
    simp

theorem Hold.mem_positions_iff (hold : tables.Hold records) {key : String} :
    key ∈ tables.positions ↔ key ∈ records.map Record.key := by
  rw [Std.HashMap.mem_iff_isSome_getElem?, Option.isSome_iff_exists, List.mem_iff_getElem?]
  exact exists_congr fun position => hold.positions key position

theorem Hold.size_eq (hold : tables.Hold records) : tables.entries.size = records.length := by
  rw [← Array.length_toList, hold.entries, List.length_map]

theorem Hold.add_of_mem (hold : tables.Hold records) {record : Record}
    (repeated : record.key ∈ records.map Record.key) :
    tables.add record = .error (.directory s!"Duplicate entry {record.dn}") := by
  rw [add, if_pos (hold.mem_positions_iff.2 repeated)]

theorem Hold.add_of_not_mem (hold : tables.Hold records) {record : Record}
    (fresh : record.key ∉ records.map Record.key) :
    ∃ tables', tables.add record = .ok tables' ∧ tables'.Hold (records ++ [record]) := by
  rw [add, if_neg (mt hold.mem_positions_iff.1 fresh)]
  refine ⟨_, rfl, ?_, ?_, ?_, ?_⟩
  · rw [List.map_append, List.map_singleton, ← List.concat_eq_append]
    exact hold.distinct.concat fresh
  · rw [Array.toList_push, hold.entries, List.map_append]
    rfl
  · intro key position
    rw [List.map_append, List.map_singleton, getElem?_concat_iff, ← hold.positions,
      Std.HashMap.getElem?_insert, hold.size_eq, List.length_map]
    by_cases same : record.key = key
    · have absent : tables.positions[key]? ≠ some position := fun found =>
        fresh (same ▸ List.mem_of_getElem? ((hold.positions key position).1 found))
      simp only [same, beq_self_eq_true, if_true, absent, false_or, and_true, Option.some.injEq,
        eq_comm]
    · simp only [beq_eq_false_iff_ne.2 same, Bool.false_eq_true, if_false, same, and_false,
        or_false]
  · intro key password
    have absent (same : record.key = key) : tables.passwords[key]? ≠ some password := by
      intro found
      obtain ⟨earlier, mem, same', -⟩ := (hold.passwords key password).1 found
      exact fresh (List.mem_map.2 ⟨earlier, mem, same'.trans same.symm⟩)
    simp only [List.mem_append, List.mem_singleton, or_and_right, exists_or, exists_eq_left,
      ← hold.passwords]
    cases record.password with
    | none => simp
    | some given =>
      simp only [Std.HashMap.getElem?_insert]
      by_cases same : record.key = key
      · simp [same, absent same]
      · simp [same]

/-- Adding goes on up to the first name that is there already. -/
theorem Hold.foldlM_add (hold : tables.Hold records) {earlier : List String}
    (keys : ∀ key, key ∈ earlier ↔ key ∈ records.map Record.key) (rest : List Record) :
    match Directory.repeated? earlier rest with
    | some record =>
        rest.foldlM add tables = .error (.directory s!"Duplicate entry {record.dn}")
    | none => ∃ tables', rest.foldlM add tables = .ok tables' ∧ tables'.Hold (records ++ rest) := by
  induction rest generalizing tables records earlier with
  | nil => exact ⟨tables, rfl, by rwa [List.append_nil]⟩
  | cons record rest ih =>
    rw [Directory.repeated?, List.foldlM_cons]
    by_cases repeated : record.key ∈ earlier
    · rw [if_pos repeated, hold.add_of_mem ((keys _).1 repeated)]
      rfl
    · obtain ⟨tables', added, hold'⟩ := hold.add_of_not_mem (mt (keys _).2 repeated)
      have keys' : ∀ key, key ∈ record.key :: earlier ↔
          key ∈ (records ++ [record]).map Record.key := by
        intro key
        rw [List.map_append, List.map_singleton, List.mem_append, List.mem_singleton,
          List.mem_cons, keys, or_comm]
      have later := ih hold' keys'
      rw [if_neg repeated, added, List.append_cons]
      exact later

theorem ofRecords_eq (records : List Record) :
    match Directory.repeated? [] records with
    | some record => ofRecords records = .error (.directory s!"Duplicate entry {record.dn}")
    | none => ∃ tables, ofRecords records = .ok tables ∧ tables.Hold records :=
  hold_empty.foldlM_add (fun _ => Iff.rfl) records

structure Serves (tables : DirectoryTables) (directory : Directory) : Prop where
  entries : tables.entries.toList = directory.entries
  get? : ∀ dn, tables.get? dn = .ok (directory.get? dn)
  password? : ∀ dn, tables.password? dn = directory.password? dn
  verifyPassword : ∀ dn password,
    tables.verifyPassword dn password = directory.verifyPassword dn password

end DirectoryTables

namespace Directory

variable {directory : Directory} {records : List Record}

theorem ofRecords_of_repeated? {record : Record} (h : repeated? [] records = some record) :
    ofRecords records = .error (.directory s!"Duplicate entry {record.dn}") := by
  unfold ofRecords
  split
  · next other found =>
    obtain rfl := Option.some.inj (found.symm.trans h)
    rfl
  · next distinct => cases distinct.symm.trans h

theorem ofRecords_of_distinct (h : repeated? [] records = none) :
    ∃ directory, ofRecords records = .ok directory ∧
      directory.stored = records.map StoredEntry.ofRecord := by
  unfold ofRecords
  split
  · next other found => cases found.symm.trans h
  · exact ⟨_, rfl, rfl⟩

theorem repeated?_eq (earlier : List String) (records : List Record) :
    repeated? earlier records = firstRepeated? Record.key earlier records := by
  induction records generalizing earlier with
  | nil => rfl
  | cons record rest ih => rw [repeated?, firstRepeated?, ih]

theorem repeated?_eq_none_iff : repeated? [] records = none ↔ (records.map Record.key).Nodup := by
  rw [repeated?_eq, firstRepeated?_eq_none_iff]

/-- The directory shows these records, and it finds each by its name. -/
structure Shows (directory : Directory) (records : List Record) : Prop where
  entries : directory.entries =
    records.map fun record => { dn := record.dn, attributes := record.attributes }
  distinct : (directory.entries.map fun entry => Dn.normalize entry.dn).Nodup
  get? : ∀ dn entry, directory.get? dn = some entry ↔
    entry ∈ directory.entries ∧ Dn.normalize entry.dn = Dn.normalize dn
  verifyPassword : ∀ dn password, directory.verifyPassword dn password = true ↔
    ∃ record ∈ records, Dn.normalize record.dn = Dn.normalize dn ∧
      directory.get? dn = some { dn := record.dn, attributes := record.attributes } ∧
      record.password = some password
  password? : ∀ dn password, directory.password? dn = some password ↔
    directory.verifyPassword dn password = true

theorem get?_eq_some_iff {dn : String} {entry : Entry} :
    directory.get? dn = some entry ↔
      entry ∈ directory.entries ∧ Dn.normalize entry.dn = Dn.normalize dn := by
  simp only [get?, entries, Option.map_eq_some_iff, List.mem_map, find?_eq_some_iff]
  constructor
  · rintro ⟨item, ⟨mem, key⟩, rfl⟩
    exact ⟨⟨item, mem, rfl⟩, (directory.normalized item mem).symm.trans key⟩
  · rintro ⟨⟨item, mem, rfl⟩, same⟩
    exact ⟨item, ⟨mem, (directory.normalized item mem).trans same⟩, rfl⟩

theorem map_normalize_entries (directory : Directory) :
    directory.entries.map (fun entry => Dn.normalize entry.dn) =
      directory.stored.map StoredEntry.key := by
  rw [entries, List.map_map]
  exact List.map_congr_left fun item mem => (directory.normalized item mem).symm

theorem shows_of_stored (same : directory.stored = records.map StoredEntry.ofRecord) :
    directory.Shows records := by
  have shown : directory.entries =
      records.map fun record => { dn := record.dn, attributes := record.attributes } := by
    rw [entries, same, List.map_map]
    rfl
  refine ⟨shown, ?_, fun _ _ => get?_eq_some_iff, ?_, ?_⟩
  · rw [map_normalize_entries]
    exact directory.distinct
  · intro dn password
    rw [verifyPassword_iff, Holds, same]
    constructor
    · rintro ⟨item, listed, key, given⟩
      obtain ⟨record, mem, rfl⟩ := List.mem_map.1 listed
      refine ⟨record, mem, key, get?_eq_some_iff.2 ⟨?_, key⟩, given⟩
      rw [shown]
      exact List.mem_map_of_mem mem
    · rintro ⟨record, mem, key, -, given⟩
      exact ⟨.ofRecord record, List.mem_map_of_mem mem, key, given⟩
  · intro dn password
    rw [password?_eq_some_iff, verifyPassword_iff]

end Directory

namespace DirectoryTables

variable {tables : DirectoryTables} {directory : Directory} {records : List Record}

theorem Hold.get?_eq (hold : tables.Hold records)
    (same : directory.stored = records.map StoredEntry.ofRecord) (dn : String) :
    tables.get? dn = .ok (directory.get? dn) := by
  unfold get?
  cases found : tables.positions[Dn.normalize dn]? with
  | none =>
    have absent : directory.find? dn = none := by
      rw [Directory.find?, List.find?_eq_none, same]
      intro item listed key
      obtain ⟨record, mem, rfl⟩ := List.mem_map.1 listed
      have known := hold.mem_positions_iff.2 (List.mem_map_of_mem mem)
      have there : Dn.normalize dn ∈ tables.positions := beq_iff_eq.1 key ▸ known
      rw [Std.HashMap.mem_iff_isSome_getElem?, found] at there
      cases there
    rw [Directory.get?, absent]
    rfl
  | some position =>
    have known := (hold.positions _ position).1 found
    rw [List.getElem?_map, Option.map_eq_some_iff] at known
    obtain ⟨record, there, key⟩ := known
    have listed : StoredEntry.ofRecord record ∈ directory.stored := by
      rw [same]
      exact List.mem_map_of_mem (List.mem_of_getElem? there)
    have present : directory.find? dn = some (.ofRecord record) :=
      Directory.find?_eq_some_iff.2 ⟨listed, key⟩
    have placed : tables.entries[position]? = some (StoredEntry.ofRecord record).entry := by
      rw [← Array.getElem?_toList, hold.entries, List.getElem?_map, there]
      rfl
    simp only [placed, Directory.get?, present]
    rfl

theorem Hold.password?_eq (hold : tables.Hold records)
    (same : directory.stored = records.map StoredEntry.ofRecord) (dn : String) :
    tables.password? dn = directory.password? dn := by
  ext password
  rw [password?, hold.passwords, Directory.password?_eq_some_iff, Directory.Holds, same]
  simp only [List.mem_map, exists_exists_and_eq_and]
  rfl

theorem Hold.serves (hold : tables.Hold records)
    (same : directory.stored = records.map StoredEntry.ofRecord) : tables.Serves directory := by
  refine ⟨?_, hold.get?_eq same, hold.password?_eq same, ?_⟩
  · rw [hold.entries, Directory.entries, same, List.map_map]
    rfl
  · intro dn password
    rw [Directory.verifyPassword, ← hold.password?_eq same, verifyPassword, password?]
    cases tables.passwords[Dn.normalize dn]? <;> rfl

end DirectoryTables

namespace Directory

def FirstRepeated (records : List Record) (record : Record) : Prop :=
  ∃ earlier later, records = earlier ++ record :: later ∧
    (earlier.map fun other => Dn.normalize other.dn).Nodup ∧
    ∃ other ∈ earlier, Dn.normalize other.dn = Dn.normalize record.dn

theorem firstRepeated_of_repeated? {records : List Record} {record : Record}
    (h : repeated? [] records = some record) : FirstRepeated records record := by
  rw [repeated?_eq, firstRepeated?_eq_some_iff] at h
  obtain ⟨earlier, later, whole, distinct, known⟩ := h
  exact ⟨earlier, later, whole, distinct, List.mem_map.1 known⟩

/-- A list of records is a directory exactly if no two normalized names in it are the same,
and then the directory shows the list. Filling tables comes to the same. -/
theorem ofRecords_shows_records (records : List Record) :
    ((∃ error, ofRecords records = .error error) ↔
      ¬(records.map fun record => Dn.normalize record.dn).Nodup) ∧
    (∀ error, ofRecords records = .error error →
      ∃ record, FirstRepeated records record ∧
        error = .directory s!"Duplicate entry {record.dn}") ∧
    (∀ directory, ofRecords records = .ok directory → directory.Shows records) ∧
    match ofRecords records with
    | .error error => DirectoryTables.ofRecords records = .error error
    | .ok directory =>
        ∃ tables, DirectoryTables.ofRecords records = .ok tables ∧ tables.Serves directory := by
  have filled := DirectoryTables.ofRecords_eq records
  cases h : repeated? [] records with
  | some record =>
    have refused := ofRecords_of_repeated? h
    have repeats : ¬(records.map Record.key).Nodup := by
      rw [← repeated?_eq_none_iff, h]
      exact Option.some_ne_none record
    rw [h] at filled
    rw [refused]
    refine ⟨iff_of_true ⟨_, rfl⟩ repeats, ?_, (fun _ made => nomatch made), filled⟩
    rintro error same
    exact ⟨record, firstRepeated_of_repeated? h, (Except.error.inj same).symm⟩
  | none =>
    obtain ⟨directory, made, stored⟩ := ofRecords_of_distinct h
    rw [h] at filled
    obtain ⟨tables, filled, hold⟩ := filled
    have distinct := repeated?_eq_none_iff.1 h
    rw [made]
    refine ⟨iff_of_false (fun ⟨_, refused⟩ => nomatch refused) (not_not_intro distinct),
      (fun _ refused => nomatch refused), ?_, tables, filled, hold.serves stored⟩
    rintro other same
    rw [← Except.ok.inj same]
    exact shows_of_stored stored

end Directory

end LdapService

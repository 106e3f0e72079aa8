import LdapService.Directory.Record
import LdapService.Dn

/-!
A directory kept in memory. Its entries stand in the order of their records,
and no two have the same normalized name. Passwords are held apart from the
attributes, so that no entry carries one.
-/

namespace LdapService

structure StoredEntry where
  key : String
  entry : Entry
  password : Option String

def Record.key (record : Record) : String :=
  Dn.normalize record.dn

def StoredEntry.ofRecord (record : Record) : StoredEntry :=
  ⟨record.key, { dn := record.dn, attributes := record.attributes }, record.password⟩

structure Directory where
  stored : List StoredEntry
  normalized : ∀ item ∈ stored, item.key = Dn.normalize item.entry.dn
  distinct : (stored.map StoredEntry.key).Nodup

namespace Directory

def repeated? (earlier : List String) : List Record → Option Record
  | [] => none
  | record :: rest =>
      let key := record.key
      if key ∈ earlier then some record else repeated? (key :: earlier) rest

theorem distinct_of_repeated? {earlier : List String} {records : List Record}
    (h : repeated? earlier records = none) :
    (records.map Record.key).Nodup ∧ ∀ record ∈ records, record.key ∉ earlier := by
  induction records generalizing earlier with
  | nil => simp
  | cons record rest ih =>
    simp only [repeated?] at h
    split at h
    · cases h
    · next fresh =>
      obtain ⟨nodup, others⟩ := ih h
      simp only [List.mem_cons, not_or] at others
      refine ⟨List.nodup_cons.2 ⟨fun mem => ?_, nodup⟩, ?_⟩
      · obtain ⟨other, mem, same⟩ := List.mem_map.1 mem
        exact (others other mem).1 same
      · intro other mem
        rcases List.mem_cons.1 mem with rfl | mem
        · exact fresh
        · exact (others other mem).2

def ofRecords (records : List Record) : Except ServiceError Directory :=
  match h : repeated? [] records with
  | some record => .error (.directory s!"Duplicate entry {record.dn}")
  | none => .ok {
      stored := records.map StoredEntry.ofRecord
      normalized := by
        intro item mem
        obtain ⟨record, -, rfl⟩ := List.mem_map.1 mem
        rfl
      distinct := by
        rw [List.map_map]
        exact (distinct_of_repeated? h).1 }

def ofText (text : String) : Except ServiceError Directory := do
  ofRecords (← Record.ofText text)

def ofFile (path : String) (contents : Except IoError String) : Except ServiceError Directory :=
  match contents with
  | .ok text => ofText text
  | .error error => .error (.directory s!"Failed to read {path}: {error.message}")

def entries (directory : Directory) : List Entry :=
  directory.stored.map StoredEntry.entry

def find? (directory : Directory) (dn : String) : Option StoredEntry :=
  let key := Dn.normalize dn
  directory.stored.find? fun item => item.key == key

def get? (directory : Directory) (dn : String) : Option Entry :=
  (directory.find? dn).map StoredEntry.entry

def password? (directory : Directory) (dn : String) : Option String :=
  (directory.find? dn).bind StoredEntry.password

def verifyPassword (directory : Directory) (dn password : String) : Bool :=
  directory.password? dn == some password

end Directory

end LdapService

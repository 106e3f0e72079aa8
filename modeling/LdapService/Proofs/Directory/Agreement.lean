import LdapService.Directory.Basic
import LdapService.Proofs.Dn.Within

/-!
Directories that agree within a base: the same records there, in the same
order. Whatever is looked up by a name within the base comes out the same, and
so does every selection of entries that stays within it. For what is shown to
clients it is enough that they show the same entries there; passwords are no part
of that, nor of whether a list of records is a directory at all.
-/

namespace LdapService

def Record.withoutPassword (record : Record) : Record := { record with password := none }

namespace Directory

def within (directory : Directory) (base : String) : List StoredEntry :=
  directory.stored.filter fun item => Dn.isWithin item.key base

def AgreesWithin (base : String) (first second : Directory) : Prop :=
  first.within base = second.within base

def ShowsAlike (base : String) (first second : Directory) : Prop :=
  first.entries.filter (fun entry => Dn.isWithin (Dn.normalize entry.dn) base) =
    second.entries.filter fun entry => Dn.isWithin (Dn.normalize entry.dn) base

theorem AgreesWithin.refl (base : String) (directory : Directory) :
    directory.AgreesWithin base directory := rfl

variable {base : String} {first second : Directory}

theorem find?_eq_find?_within (directory : Directory) {dn : String}
    (inside : Dn.isWithin (Dn.normalize dn) base = true) :
    directory.find? dn =
      (directory.within base).find? fun item => item.key == Dn.normalize dn := by
  rw [find?, within, List.find?_filter]
  congr 1
  funext item
  by_cases same : item.key = Dn.normalize dn
  · simp [same, inside]
  · simp [same]

theorem AgreesWithin.find? (agree : first.AgreesWithin base second) {dn : String}
    (inside : Dn.isWithin (Dn.normalize dn) base = true) : first.find? dn = second.find? dn := by
  rw [find?_eq_find?_within first inside, find?_eq_find?_within second inside, agree]

theorem AgreesWithin.get? (agree : first.AgreesWithin base second) {dn : String}
    (inside : Dn.isWithin (Dn.normalize dn) base = true) : first.get? dn = second.get? dn := by
  rw [Directory.get?, Directory.get?, agree.find? inside]

theorem AgreesWithin.verifyPassword (agree : first.AgreesWithin base second) {dn : String}
    (inside : Dn.isWithin (Dn.normalize dn) base = true) (password : String) :
    first.verifyPassword dn password = second.verifyPassword dn password := by
  rw [Directory.verifyPassword, Directory.verifyPassword, password?, password?, agree.find? inside]

theorem filter_entries (directory : Directory) (selects : String → Bool) :
    directory.entries.filter (fun entry => selects (Dn.normalize entry.dn)) =
      (directory.stored.filter fun item => selects item.key).map StoredEntry.entry := by
  rw [entries, List.filter_map]
  congr 1
  apply List.filter_congr
  intro item mem
  rw [Function.comp_apply, ← directory.normalized item mem]

theorem AgreesWithin.showsAlike (agree : first.AgreesWithin base second) :
    first.ShowsAlike base second := by
  unfold ShowsAlike
  rw [first.filter_entries (Dn.isWithin · base), second.filter_entries (Dn.isWithin · base)]
  exact congrArg (List.map StoredEntry.entry) agree

theorem ShowsAlike.of_entries (same : first.entries = second.entries) :
    first.ShowsAlike base second := by
  rw [ShowsAlike, same]

theorem ShowsAlike.filter_entries (shows : first.ShowsAlike base second)
    (selects : String → Bool)
    (inside : ∀ key, selects key = true → Dn.isWithin key base = true) :
    first.entries.filter (fun entry => selects (Dn.normalize entry.dn)) =
      second.entries.filter fun entry => selects (Dn.normalize entry.dn) := by
  have narrowed (directory : Directory) :
      directory.entries.filter (fun entry => selects (Dn.normalize entry.dn)) =
        (directory.entries.filter fun entry => Dn.isWithin (Dn.normalize entry.dn) base).filter
          fun entry => selects (Dn.normalize entry.dn) := by
    rw [List.filter_filter]
    apply List.filter_congr
    intro entry _
    by_cases selected : selects (Dn.normalize entry.dn) = true
    · rw [selected, inside _ selected, Bool.and_true]
    · rw [Bool.not_eq_true] at selected
      rw [selected, Bool.false_and]
  rw [narrowed first, narrowed second, shows]

theorem get?_eq_head? (directory : Directory) (dn : String) :
    directory.get? dn =
      (directory.entries.filter fun entry => Dn.normalize entry.dn == Dn.normalize dn).head? := by
  rw [directory.filter_entries (· == Dn.normalize dn), List.head?_map, List.head?_filter]
  rfl

theorem ShowsAlike.get? (shows : first.ShowsAlike base second) {dn : String}
    (inside : Dn.isWithin (Dn.normalize dn) base = true) : first.get? dn = second.get? dn := by
  have selected := shows.filter_entries (· == Dn.normalize dn) fun key same => by
    rw [beq_iff_eq.1 same, inside]
  rw [get?_eq_head?, get?_eq_head?, selected]

theorem repeated?_withoutPassword (earlier : List String) (records : List Record) :
    repeated? earlier (records.map Record.withoutPassword) =
      (repeated? earlier records).map Record.withoutPassword := by
  induction records generalizing earlier with
  | nil => rfl
  | cons record rest ih =>
    have key : record.withoutPassword.key = record.key := rfl
    simp only [List.map_cons, repeated?, key, ih]
    split
    · rfl
    · rfl

theorem ofRecords_entries (records : List Record) :
    (ofRecords records).map entries =
      match repeated? [] records with
      | some record => .error (.directory s!"Duplicate entry {record.dn}")
      | none => .ok (records.map fun record => (StoredEntry.ofRecord record).entry) := by
  unfold ofRecords
  split
  · next record found =>
    rw [found]
    rfl
  · next distinct =>
    simp only [distinct, Except.map, entries, List.map_map]
    rfl

/-- What a directory shows is read off its records without their passwords. -/
theorem ofRecords_withoutPassword (records : List Record) :
    (ofRecords (records.map Record.withoutPassword)).map entries =
      (ofRecords records).map entries := by
  rw [ofRecords_entries, ofRecords_entries, repeated?_withoutPassword, List.map_map]
  cases repeated? [] records with
  | none => rfl
  | some record => rfl

end Directory

end LdapService

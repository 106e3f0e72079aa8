import LdapService.Directory.Basic

/-!
The directory that is served when none is given: a base, a branch for people
and two mail users.
-/

namespace LdapService.Directory.Sample

def text (chars : List Char) : String := String.ofList chars

def base (dn : String) : Entry :=
  let entry : Entry := Entry.add "objectClass" "top" { dn }
  let first := dn.toList.takeWhile (· != ',')
  match Dn.splitFirst? '=' first with
  | some (type, value) => entry.add (text (Text.trim type)) (text (Text.trim value))
  | none => entry

def people (dn : String) : Entry :=
  Entry.add "ou" "people"
    (Entry.add "objectClass" "organizationalUnit" (Entry.add "objectClass" "top" { dn }))

def user (branch : String) (number : Nat) (uid commonName surname : String) : Entry :=
  [("objectClass", "top"), ("objectClass", "person"), ("objectClass", "inetOrgPerson"),
    ("uid", uid), ("cn", commonName), ("sn", surname), ("mail", s!"{uid}@example.com"),
    ("employeeNumber", toString number), ("maildir", s!"/netapp/{uid}/")].foldl
    (fun entry (name, value) => entry.add name value) { dn := s!"uid={uid},{branch}" }

def record (entry : Entry) (password : Option String) : Record :=
  { dn := entry.dn, password, attributes := entry.attributes }

def records (baseDn : String) : List Record :=
  let branch := s!"ou=people,{baseDn}"
  [record (base baseDn) none, record (people branch) none,
    record (user branch 1 "brian" "Brian Candler" "Candler") (some "foobar"),
    record (user branch 2 "caroline" "Caroline Smith" "Smith") (some "boing")]

end Sample

def sample (baseDn : String) : Except ServiceError Directory :=
  ofRecords (Sample.records baseDn)

end LdapService.Directory

import LdapService.Attributes
import LdapService.JsonValue.Basic
import LdapService.ServiceError

/-!
Records of a directory file. A record is an object or an array of its fields
in order; a field may be left out where it has a default. Fields that no one
knows are passed over, known ones must not repeat, and of an attribute that
repeats the last set of values counts.
-/

namespace LdapService

structure Record where
  dn : String
  password : Option String := none
  attributes : Attributes := .empty

namespace Record

open JsonValue (member?)

def text? : JsonValue → Option String
  | .text value => value
  | _ => none

def password? : JsonValue → Option (Option String)
  | .null => some none
  | value => (text? value).map some

def attributes? : JsonValue → Option Attributes
  | .object members =>
      members.foldlM (fun attributes (key, value) => do
        let values ← match value with
          | .array items => items.mapM text?
          | _ => none
        return attributes.insert (← key) values) Attributes.empty
  | _ => none

def ofFields? (dn password attributes : Option JsonValue) : Option Record := do
  let dn ← text? (← dn)
  let password ← password? (password.getD .null)
  let attributes ← attributes? (attributes.getD (.object []))
  return { dn, password, attributes }

def ofJson? : JsonValue → Option Record
  | .object members => do
      guard (members.all fun pair => pair.1.isSome)
      ofFields? (← member? "dn" members) (← member? "password" members)
        (← member? "attributes" members)
  | .array items => do
      guard (items.length ≤ 3)
      ofFields? items[0]? items[1]? items[2]?
  | _ => none

def listOf? : JsonValue → Option (List Record)
  | .array items => items.mapM ofJson?
  | _ => none

def ofFile? : JsonValue → Option (List Record)
  | .object members => do
      guard (members.all fun pair => pair.1.isSome)
      listOf? (← (← member? "entries" members))
  | .array [entries] => listOf? entries
  | _ => none

def ofText (text : String) : Except ServiceError (List Record) :=
  match (JsonValue.ofText? text).bind ofFile? with
  | some records => .ok records
  | none => .error (.serialization "not a list of directory entries")

end Record

end LdapService

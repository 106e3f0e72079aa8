import LdapService.JsonValue.Token

/-!
JSON values. Members of an object keep their order and may repeat a key: what
a repeated key means is for the reader of the value to say. Nesting is not
limited, for the reading keeps its own stack.
-/

namespace LdapService

inductive JsonValue where
  | null
  | boolean (value : Bool)
  | number
  | text (value : Option String)
  | array (items : List JsonValue)
  | object (members : List (Option String × JsonValue))
  deriving Inhabited

namespace JsonValue

inductive Open where
  | array (items : List JsonValue)
  | object (members : List (Option String × JsonValue))
  | member (members : List (Option String × JsonValue)) (key : Option String)

inductive Expected where
  | value
  | firstItem
  | key
  | firstKey
  | colon
  | separator
  | nothing

structure Reading where
  stack : List Open := []
  expected : Expected := .value
  result : JsonValue := .null

namespace Reading

def complete (value : JsonValue) : List Open → Option Reading
  | [] => some { expected := .nothing, result := value }
  | .array items :: rest => some { stack := .array (value :: items) :: rest, expected := .separator }
  | .member members key :: rest =>
      some { stack := .object ((key, value) :: members) :: rest, expected := .separator }
  | .object _ :: _ => none

def begin (stack : List Open) : JsonToken → Option Reading
  | .openObject => some { stack := .object [] :: stack, expected := .firstKey }
  | .openArray => some { stack := .array [] :: stack, expected := .firstItem }
  | .text value => complete (.text value) stack
  | .number => complete .number stack
  | .boolean value => complete (.boolean value) stack
  | .null => complete .null stack
  | _ => none

def close : List Open → JsonToken → Option Reading
  | .array items :: rest, .closeArray => complete (.array items.reverse) rest
  | .object members :: rest, .closeObject => complete (.object members.reverse) rest
  | _, _ => none

def beginMember : List Open → JsonToken → Option Reading
  | .object members :: rest, .text key =>
      some { stack := .member members key :: rest, expected := .colon }
  | _, _ => none

def separate : List Open → JsonToken → Option Reading
  | .array items :: rest, .comma => some { stack := .array items :: rest, expected := .value }
  | .object members :: rest, .comma => some { stack := .object members :: rest, expected := .key }
  | stack, token => close stack token

def step (reading : Reading) (token : JsonToken) : Option Reading :=
  match reading.expected with
  | .value => begin reading.stack token
  | .firstItem =>
      if token = .closeArray then close reading.stack token else begin reading.stack token
  | .key => beginMember reading.stack token
  | .firstKey =>
      if token = .closeObject then close reading.stack token else beginMember reading.stack token
  | .colon => if token = .colon then some { reading with expected := .value } else none
  | .separator => separate reading.stack token
  | .nothing => none

end Reading

def ofTokens? (tokens : List JsonToken) : Option JsonValue := do
  let reading ← tokens.foldlM Reading.step {}
  match reading.expected with
  | .nothing => some reading.result
  | _ => none

def ofText? (text : String) : Option JsonValue := do
  ofTokens? (← JsonToken.scan text.toList)

def member? (key : String) (members : List (Option String × JsonValue)) :
    Option (Option JsonValue) :=
  match members.filter fun pair => pair.1 == some key with
  | [] => some none
  | [pair] => some (some pair.2)
  | _ => none

end JsonValue

end LdapService

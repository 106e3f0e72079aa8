import LdapService.Text.Decimal

/-!
Tokens of JSON text. A string whose escapes do not spell characters, because a
surrogate stands alone, is a token without text: it may be passed over but not
read. Numbers are checked for their form and not evaluated.
-/

namespace LdapService

inductive JsonToken where
  | openObject
  | closeObject
  | openArray
  | closeArray
  | comma
  | colon
  | text (value : Option String)
  | number
  | boolean (value : Bool)
  | null
  deriving DecidableEq, Repr

namespace JsonToken

structure Draft where
  reversed : List Char := []
  high : Option Nat := none
  broken : Bool := false

namespace Draft

def push (c : Char) (draft : Draft) : Draft :=
  if draft.high.isSome then { draft with broken := true }
  else { draft with reversed := c :: draft.reversed }

def pushUnit (unit : Nat) (draft : Draft) : Draft :=
  let isLow := 0xdc00 ≤ unit && unit < 0xe000
  match draft.high with
  | some high =>
      if isLow then
        let c := Char.ofNat (0x10000 + (high - 0xd800) * 0x400 + (unit - 0xdc00))
        { draft with reversed := c :: draft.reversed, high := none }
      else { draft with broken := true }
  | none =>
      if isLow then { draft with broken := true }
      else if 0xd800 ≤ unit && unit < 0xdc00 then { draft with high := some unit }
      else draft.push (Char.ofNat unit)

def text? (draft : Draft) : Option String :=
  if draft.broken || draft.high.isSome then none
  else some (String.ofList draft.reversed.reverse)

end Draft

def hexDigit? (c : Char) : Option Nat :=
  if c.isDigit then some (c.toNat - 48)
  else if 'a' ≤ c ∧ c ≤ 'f' then some (c.toNat - 87)
  else if 'A' ≤ c ∧ c ≤ 'F' then some (c.toNat - 55)
  else none

def hexUnit? (first second third fourth : Char) : Option Nat := do
  return ((← hexDigit? first) * 16 + (← hexDigit? second)) * 256
    + (← hexDigit? third) * 16 + (← hexDigit? fourth)

def escaped? : Char → Option Char
  | '"' => some '"'
  | '\\' => some '\\'
  | '/' => some '/'
  | 'b' => some '\x08'
  | 'f' => some '\x0c'
  | 'n' => some '\n'
  | 'r' => some '\r'
  | 't' => some '\t'
  | _ => none

def scanText (draft : Draft) : List Char → Option (Option String × List Char)
  | [] => none
  | '"' :: rest => some (draft.text?, rest)
  | '\\' :: 'u' :: a :: b :: c :: d :: rest =>
      match hexUnit? a b c d with
      | some unit => scanText (draft.pushUnit unit) rest
      | none => none
  | '\\' :: c :: rest =>
      match escaped? c with
      | some c => scanText (draft.push c) rest
      | none => none
  | c :: rest => if c.toNat < 0x20 then none else scanText (draft.push c) rest

theorem length_scanText {draft : Draft} {input rest : List Char} {value : Option String}
    (h : scanText draft input = some (value, rest)) : rest.length < input.length := by
  fun_induction scanText draft input with
  | case1 => cases h
  | case2 draft tail => simp_all
  | case3 draft a b c d tail unit _ ih => have := ih h; simp only [List.length_cons]; omega
  | case4 => cases h
  | case5 draft c tail _ found _ ih => have := ih h; simp only [List.length_cons]; omega
  | case6 => cases h
  | case7 => cases h
  | case8 draft c tail _ _ _ _ ih => have := ih h; simp only [List.length_cons]; omega

def dropDigits? : List Char → Option (List Char)
  | c :: rest => if c.isDigit then some (rest.dropWhile Char.isDigit) else none
  | [] => none

/-- Whether a run of characters is a number: no leading zero, and digits on
both sides of a point. -/
def isNumber (run : List Char) : Bool :=
  let unsigned := match run with
    | '-' :: rest => rest
    | _ => run
  let afterWhole := match unsigned with
    | '0' :: rest => some rest
    | _ => dropDigits? unsigned
  let afterFraction := afterWhole.bind fun
    | '.' :: rest => dropDigits? rest
    | rest => some rest
  let afterExponent := afterFraction.bind fun
    | [] => some []
    | c :: rest =>
        if c = 'e' ∨ c = 'E' then
          match rest with
          | '+' :: rest => dropDigits? rest
          | '-' :: rest => dropDigits? rest
          | _ => dropDigits? rest
        else some (c :: rest)
  afterExponent == some []

def isNumberChar (c : Char) : Bool :=
  c.isDigit || c == '-' || c == '+' || c == '.' || c == 'e' || c == 'E'

def punctuation? : Char → Option JsonToken
  | '{' => some openObject
  | '}' => some closeObject
  | '[' => some openArray
  | ']' => some closeArray
  | ',' => some comma
  | ':' => some colon
  | _ => none

def isSpace (c : Char) : Bool :=
  c == ' ' || c == '\t' || c == '\n' || c == '\r'

def word? (run : List Char) : Option JsonToken :=
  if run = "null".toList then some null
  else if run = "true".toList then some (boolean true)
  else if run = "false".toList then some (boolean false)
  else none

def scan (input : List Char) : Option (List JsonToken) :=
  match input with
  | [] => some []
  | c :: rest =>
      if isSpace c then scan rest
      else if c = '"' then
        match _ : scanText {} rest with
        | some (value, after) => (scan after).map (text value :: ·)
        | none => none
      else if isNumberChar c && c != 'e' && c != 'E' then
        if isNumber (c :: rest.takeWhile isNumberChar) then
          (scan (rest.dropWhile isNumberChar)).map (number :: ·)
        else none
      else
        match punctuation? c with
        | some token => (scan rest).map (token :: ·)
        | none =>
            match word? (c :: rest.takeWhile Char.isAlpha) with
            | some token => (scan (rest.dropWhile Char.isAlpha)).map (token :: ·)
            | none => none
termination_by input.length
decreasing_by
  · simp
  · have := length_scanText ‹_›
    simp only [List.length_cons]
    omega
  · have := (List.dropWhile_sublist (l := rest) isNumberChar).length_le
    simp only [List.length_cons]
    omega
  · simp
  · have := (List.dropWhile_sublist (l := rest) Char.isAlpha).length_le
    simp only [List.length_cons]
    omega

end JsonToken

end LdapService

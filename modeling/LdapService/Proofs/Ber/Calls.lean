import LdapService.Proofs.Ber.Cursor

/-!
# What calls do to a cursor

One call either takes the element at the position, and moves behind it, or leaves the cursor where
it is. Hence the position stays inside the octets for any sequence of calls, whatever the octets
are, and no slice is out of bounds.
-/

namespace LdapService

namespace Ber

open Octets (OutOfBounds)

inductive Call where
  | element
  | expect (tag : UInt8)
  | optional (tag : UInt8)
  | integer (tag : UInt8)
  | boolean
  | text (tag : UInt8)
  | peek
  | finish

namespace Call

abbrev Answer : Call → Type
  | element => Element
  | expect _ => Octets
  | optional _ => Option Octets
  | integer _ => Int
  | boolean => Bool
  | text _ => String
  | peek => Option UInt8
  | finish => Unit

def reader : (call : Call) → Reader Error call.Answer
  | element => Reader.element
  | expect tag => Reader.expect tag
  | optional tag => Reader.optional tag
  | integer tag => Reader.integer tag
  | boolean => Reader.boolean
  | text tag => Reader.text tag
  | peek => Reader.peek
  | finish => Reader.finish

def perform : (call : Call) → Cursor.Action call.Answer
  | element => Cursor.element
  | expect tag => Cursor.expect tag
  | optional tag => Cursor.optional tag
  | integer tag => Cursor.integer tag
  | boolean => Cursor.boolean
  | text tag => Cursor.text tag
  | peek => Cursor.peek
  | finish => Cursor.finish

theorem follows (call : Call) : Cursor.Follows call.perform call.reader := by
  cases call with
  | element => exact Cursor.follows_element
  | expect tag => exact Cursor.follows_expect tag
  | optional tag => exact Cursor.follows_optional tag
  | integer tag => exact (Cursor.follows_expect tag).andThen fun _ => Cursor.follows_settle _
  | boolean => exact (Cursor.follows_expect 0x01).andThen fun _ => Cursor.follows_settle _
  | text tag => exact (Cursor.follows_expect tag).andThen fun _ => Cursor.follows_settle _
  | peek => exact Cursor.follows_peek
  | finish => exact Cursor.follows_finish

def MadeOf : (call : Call) → call.Answer → Element → Prop
  | element, answer, found => answer = found
  | expect tag, answer, found => found.tag = tag ∧ answer = found.value
  | optional tag, answer, found => found.tag = tag ∧ answer = some found.value
  | integer tag, answer, found => found.tag = tag ∧ Integer.read found.value = .ok answer
  | boolean, answer, found => found.tag = 0x01 ∧ Reader.booleanOf found.value = .ok answer
  | text tag, answer, found => found.tag = tag ∧ Reader.textOf found.value = .ok answer
  | peek, _, _ | finish, _, _ => False

def isLook : (call : Call) → call.Answer → Bool
  | optional _, value => value.isNone
  | peek, _ | finish, _ => true
  | element, _ | expect _, _ | integer _, _ | boolean, _ | text _, _ => false

inductive Takes (call : Call) (input : Octets) : Except Error call.Answer → Octets → Prop
  | found (encoded : Encoded) {rest : Octets} {answer : call.Answer}
      (here : input = encoded.octets ++ rest) (made : call.MadeOf answer encoded.element) :
      Takes call input (.ok answer) rest
  | refused (encoded : Encoded) {rest : Octets} {error : Error}
      (here : input = encoded.octets ++ rest) (other : call ≠ .element) :
      Takes call input (.error error) rest
  | looked {answer : call.Answer} (look : call.isLook answer = true) :
      Takes call input (.ok answer) input
  | failed (error : Error) : Takes call input (.error error) input

section Judged

open Reader

theorem takes_of_judge (call : Call) {judge : Element → Except Error call.Answer}
    (one : TakesOne call.reader judge)
    (broken : ∀ {input error}, Element.read input = .error error →
      call.reader input = (.error error, input))
    (made : ∀ {element answer}, judge element = .ok answer → call.MadeOf answer element)
    (any : call = .element → ∀ element, ∃ answer, judge element = .ok answer) (input : Octets) :
    call.Takes input (call.reader input).1 (call.reader input).2 := by
  cases read : Element.read input with
  | error error =>
    rw [broken read]
    exact .failed error
  | ok found =>
    obtain ⟨encoded, -, rfl⟩ := Encoded.exists_of_read read
    rw [one]
    cases judged : judge encoded.element with
    | ok answer => exact .found encoded rfl (made judged)
    | error error =>
      refine .refused encoded rfl fun same => ?_
      obtain ⟨answer, good⟩ := any same encoded.element
      rw [judged] at good
      cases good

theorem expectation_eq_ok {tag : UInt8} {element : Element} {value : Octets}
    (h : expectation tag element = .ok value) : element.tag = tag ∧ value = element.value := by
  unfold expectation at h
  split at h
  · next same => exact ⟨same, (Except.ok.inj h).symm⟩
  · cases h

theorem expect_broken (tag : UInt8) {input : Octets} {error : Error}
    (broken : Element.read input = .error error) :
    Reader.expect tag input = (.error error, input) := by
  refine bind_of_error ?_
  rw [Reader.element, broken]

theorem judged_broken {α : Type} (tag : UInt8) (next : Octets → Except Error α) {input : Octets}
    {error : Error} (broken : Element.read input = .error error) :
    (Reader.expect tag >>= fun value => ofExcept (next value)) input = (.error error, input) :=
  bind_of_error (expect_broken tag broken)

theorem judged_made {α : Type} {tag : UInt8} {next : Octets → Except Error α} {element : Element}
    {answer : α} (h : (expectation tag element >>= next) = .ok answer) :
    element.tag = tag ∧ next element.value = .ok answer := by
  obtain ⟨value, expected, judged⟩ := of_bind_ok h
  obtain ⟨same, rfl⟩ := expectation_eq_ok expected
  exact ⟨same, judged⟩

theorem takes_optional (tag : UInt8) (input : Octets) :
    (Call.optional tag).Takes input (Reader.optional tag input).1 (Reader.optional tag input).2 := by
  by_cases there : input.head? = some tag
  · cases read : Element.read input with
    | error error =>
      have broken : Reader.optional tag input = (.error error, input) := by
        rw [Reader.optional, Reader.bind_of_ok (peek_apply _), if_pos there]
        exact bind_of_error (expect_broken tag read)
      rw [broken]
      exact .failed error
    | ok found =>
      obtain ⟨encoded, -, rfl⟩ := Encoded.exists_of_read read
      have same : encoded.tag = tag := Option.some.inj there
      rw [(takesIf_optional tag).there encoded same]
      exact .found encoded rfl ⟨same, rfl⟩
  · rw [(takesIf_optional tag).absent input there]
    exact .looked rfl

theorem takes (call : Call) (input : Octets) :
    call.Takes input (call.reader input).1 (call.reader input).2 := by
  cases call with
  | element =>
    refine takes_of_judge .element takesOne_element (fun broken => ?_) ?_
      (fun _ element => ⟨element, rfl⟩) input
    · rw [reader, Reader.element, broken]
    · intro element answer judged
      exact (Except.ok.inj judged).symm
  | expect tag =>
    refine takes_of_judge (.expect tag) (takesOne_expect tag) (expect_broken tag) expectation_eq_ok
      ?_ input
    intro other
    cases other
  | optional tag => exact takes_optional tag input
  | integer tag =>
    refine takes_of_judge (.integer tag) (takesOne_integer tag) (judged_broken tag _) judged_made
      ?_ input
    intro other
    cases other
  | boolean =>
    refine takes_of_judge .boolean takesOne_boolean (judged_broken 0x01 _) judged_made ?_ input
    intro other
    cases other
  | text tag =>
    refine takes_of_judge (.text tag) (takesOne_text tag) (judged_broken tag _) judged_made ?_ input
    intro other
    cases other
  | peek => exact .looked rfl
  | finish =>
    cases input with
    | nil => exact .looked rfl
    | cons => exact .failed _

end Judged

/-- What a call at a cursor has come to. -/
structure ComesTo (call : Call) (before : Cursor) (outcome : Except Error call.Answer)
    (after : Cursor) : Prop where
  octets : after.octets = before.octets
  forward : before.position ≤ after.position
  inside : after.position ≤ after.octets.length
  reads : call.reader (before.octets.drop before.position) =
    (outcome, after.octets.drop after.position)
  found : ∀ answer, outcome = .ok answer → call.isLook answer = false →
    ∃ encoded : Encoded, call.MadeOf answer encoded.element ∧
      before.octets.drop before.position = encoded.octets ++ after.octets.drop after.position ∧
      after.position = before.position + encoded.octets.length ∧ 2 ≤ encoded.octets.length
  looked : ∀ answer, outcome = .ok answer → call.isLook answer = true → after = before
  /-- Only a call that asks for a certain element can fail behind one. -/
  failed : ∀ error, outcome = .error error → after = before ∨ call ≠ .element ∧
    ∃ encoded : Encoded,
      before.octets.drop before.position = encoded.octets ++ after.octets.drop after.position ∧
      after.position = before.position + encoded.octets.length

theorem MadeOf.not_look {call : Call} {answer : call.Answer} {element : Element}
    (made : call.MadeOf answer element) : call.isLook answer = false := by
  cases call with
  | optional tag =>
    obtain ⟨-, rfl⟩ := made
    rfl
  | element | expect | integer | boolean | text => rfl
  | peek | finish => exact made.elim

theorem position_eq {octets front : Octets} {first last : Nat} (within : first ≤ octets.length)
    (inside : last ≤ octets.length) (passed : octets.drop first = front ++ octets.drop last) :
    last = first + front.length := by
  have lengths := congrArg List.length passed
  rw [List.length_append, List.length_drop, List.length_drop] at lengths
  omega

/-- From inside the octets every call comes to something: no slice is out of bounds. -/
theorem comesTo (call : Call) {cursor : Cursor}
    (within : cursor.position ≤ cursor.octets.length) :
    ∃ outcome after, call.perform cursor = .ok (outcome, after) ∧
      call.ComesTo cursor outcome after := by
  obtain ⟨outcome, position, acts, reads, forward, inside⟩ := call.follows cursor within
  have takes := call.takes (cursor.octets.drop cursor.position)
  rw [reads] at takes
  refine ⟨outcome, { cursor with position }, acts, ?_⟩
  generalize left : cursor.octets.drop position = rest at takes
  have still (same : rest = cursor.octets.drop cursor.position) :
      ({ cursor with position } : Cursor) = cursor := by
    have back : position = cursor.position + ([] : Octets).length :=
      position_eq within inside (left.trans same).symm
    rw [back]
    rfl
  cases takes with
  | found encoded here made =>
    refine ⟨rfl, forward, inside, reads, fun answer same _ => ?_, fun answer same look => ?_,
      nofun⟩
    · cases same
      rw [← left] at here
      exact ⟨encoded, made, here, position_eq within inside here, encoded.two_le_length⟩
    · cases same
      rw [made.not_look] at look
      cases look
  | refused encoded here other =>
    refine ⟨rfl, forward, inside, reads, nofun, nofun, fun error _ => .inr ⟨other, encoded, ?_⟩⟩
    rw [← left] at here
    exact ⟨here, position_eq within inside here⟩
  | looked look =>
    refine ⟨rfl, forward, inside, reads, fun answer same element => ?_, fun _ _ _ => still rfl,
      nofun⟩
    cases same
    rw [look] at element
    cases element
  | failed error => exact ⟨rfl, forward, inside, reads, nofun, nofun, fun _ _ => .inl (still rfl)⟩

end Call

namespace Cursor

def run : List Call → Cursor → Except OutOfBounds Cursor
  | [], cursor => .ok cursor
  | call :: rest, cursor => do
      let (_, after) ← call.perform cursor
      run rest after

theorem run_inside (calls : List Call) {cursor : Cursor}
    (within : cursor.position ≤ cursor.octets.length) :
    ∃ after, run calls cursor = .ok after ∧ after.octets = cursor.octets ∧
      cursor.position ≤ after.position ∧ after.position ≤ after.octets.length := by
  induction calls generalizing cursor with
  | nil => exact ⟨cursor, rfl, rfl, Nat.le_refl _, within⟩
  | cons call rest ih =>
    obtain ⟨outcome, next, acts, come⟩ := call.comesTo within
    obtain ⟨after, runs, octets, forward, inside⟩ := ih come.inside
    refine ⟨after, ?_, octets.trans come.octets, Nat.le_trans come.forward forward, inside⟩
    rw [run, acts]
    exact runs

/-- Whatever calls have been made, the cursor stands in the octets, and so the next call comes
to something: it reads what the reader of the remaining octets reads, and moves over the
element that its answer is made of, or not at all. What has been written as an element is
found, and the cursor stands right behind it. -/
theorem calls_stay_inside :
    (∀ (octets : Octets) (calls : List Call), ∃ cursor, run calls ⟨octets, 0⟩ = .ok cursor ∧
      cursor.octets = octets ∧ cursor.position ≤ octets.length ∧
        ∀ call : Call, ∃ outcome after, call.perform cursor = .ok (outcome, after) ∧
          call.ComesTo cursor outcome after) ∧
    ∀ (before rest : Octets) {tag : UInt8} {value : Octets}, isMultiOctetTag tag = false →
      value.length < 2 ^ 32 →
        let octets := before ++ Element.write tag value ++ rest
        let behind := before.length + (Element.write tag value).length
        element ⟨octets, before.length⟩ = .ok (.ok ⟨tag, value⟩, ⟨octets, behind⟩) ∧
          octets.drop behind = rest := by
  constructor
  · intro octets calls
    obtain ⟨cursor, runs, rfl, -, inside⟩ := @run_inside calls ⟨octets, 0⟩ (Nat.zero_le _)
    exact ⟨cursor, runs, rfl, inside, fun call => call.comesTo inside⟩
  · intro before rest tag value single fits octets behind
    have front : before.length ≤ octets.length := by
      simp only [octets, List.append_assoc, List.length_append]
      omega
    have there : octets.drop before.length = Element.write tag value ++ rest := by
      simp only [octets, List.append_assoc, List.drop_left]
    have last : octets.length - rest.length = behind := by
      simp only [octets, behind, List.length_append, Nat.add_sub_cancel]
    have left : octets.drop behind = rest := by
      simp only [octets, behind, ← List.length_append, List.drop_left]
    refine ⟨?_, left⟩
    rw [element_eq front, there, Element.read_write single fits, ← last]

end Cursor

end Ber

end LdapService

import LdapService.Proofs.Ber.Runs
import LdapService.Proofs.Ber.TwosComplement
import LdapService.Proofs.Text.Size

/-!
What a reading guarantees, whichever way it ends: something of the value and of the octets that
are left behind it, or something of the error. Every reader leaves fewer octets than it found, by
what it has taken, and every error is told in a brief sentence. A decoder is gone through once,
reader by reader, and at its end the octets that were taken are added up.
-/

namespace LdapService.Ber

variable {ε δ α β : Type}

/-- What is found is good; what goes wrong instead is bad in this way only. -/
def Guarantees (outcome : Except ε α) (good : α → Prop) (bad : ε → Prop) : Prop :=
  match outcome with
  | .ok value => good value
  | .error error => bad error

namespace Guarantees

variable {good : α → Prop} {bad : ε → Prop} {outcome : Except ε α}

theorem of_ok (guaranteed : Guarantees outcome good bad) {value : α} (h : outcome = .ok value) :
    good value := by
  rwa [h] at guaranteed

theorem mono (guaranteed : Guarantees outcome good bad) {better : α → Prop}
    (follows : ∀ value, good value → better value) : Guarantees outcome better bad := by
  cases outcome with
  | error error => exact guaranteed
  | ok value => exact follows value guaranteed

theorem bind (guaranteed : Guarantees outcome good bad) {next : α → Except ε β}
    {good' : β → Prop} (goesOn : ∀ value, good value → Guarantees (next value) good' bad) :
    Guarantees (outcome >>= next) good' bad := by
  cases outcome with
  | error error => exact guaranteed
  | ok value => exact goesOn value guaranteed

theorem map {f : α → β} {good' : β → Prop}
    (guaranteed : Guarantees outcome (fun value => good' (f value)) bad) :
    Guarantees (f <$> outcome) good' bad := by
  cases outcome with
  | error error => exact guaranteed
  | ok value => exact guaranteed

theorem ite {condition : Prop} [Decidable condition] {other : Except ε α}
    (first : Guarantees outcome good bad) (second : Guarantees other good bad) :
    Guarantees (if condition then outcome else other) good bad := by
  split
  · exact first
  · exact second

theorem mapError (guaranteed : Guarantees outcome good bad) {f : ε → δ} {bad' : δ → Prop}
    (raised : ∀ error, bad error → bad' (f error)) : Guarantees (outcome.mapError f) good bad' := by
  cases outcome with
  | error error => exact raised error guaranteed
  | ok value => exact guaranteed

end Guarantees

namespace Reader

def start (input : Octets) (reader : Reader ε α) : Except ε (α × Octets) :=
  match reader input with
  | (.ok value, rest) => .ok (value, rest)
  | (.error error, _) => .error error

/-- What is found and the octets that are left are as told, unless something goes wrong. -/
def Takes (reader : Reader ε α) (input : Octets) (taken : α → Octets → Prop) (bad : ε → Prop) :
    Prop :=
  Guarantees (start input reader) (fun found => taken found.1 found.2) bad

section Steps

variable {input : Octets} {reader : Reader ε α} {next : α → Reader ε β} {bad : ε → Prop}
  {taken : α → Octets → Prop}

theorem run_eq_start : run input reader = Prod.fst <$> start input reader := by
  simp only [run, start]
  cases reader input with
  | mk outcome rest => cases outcome <;> rfl

theorem start_bind : start input (reader >>= next) =
    start input reader >>= fun found => start found.2 (next found.1) := by
  simp only [start]
  cases begun : reader input with
  | mk outcome rest =>
    cases outcome with
    | error error => rw [bind_of_error begun]; rfl
    | ok value => rw [bind_of_ok begun]; rfl

theorem start_mapError (f : ε → δ) : start input (reader.mapError f) =
    (start input reader).mapError f := by
  simp only [start, mapError]
  cases reader input with
  | mk outcome rest => cases outcome <;> rfl

theorem Takes.of_eq {other : Reader ε α} (same : reader input = other input)
    (takes : other.Takes input taken bad) : reader.Takes input taken bad := by
  unfold Takes start
  rw [same]
  exact takes

theorem Takes.bind {taken' : β → Octets → Prop} (takes : reader.Takes input taken bad)
    (goesOn : ∀ value rest, taken value rest → (next value).Takes rest taken' bad) :
    (reader >>= next).Takes input taken' bad := by
  unfold Takes
  rw [start_bind]
  exact Guarantees.bind takes fun found => goesOn found.1 found.2

theorem Takes.map {f : α → β} {taken' : β → Octets → Prop}
    (takes : reader.Takes input (fun value => taken' (f value)) bad) :
    (f <$> reader).Takes input taken' bad :=
  takes.bind fun _ _ done => done

theorem Takes.mapError (takes : reader.Takes input taken bad) {f : ε → δ} {bad' : δ → Prop}
    (raised : ∀ error, bad error → bad' (f error)) : (reader.mapError f).Takes input taken bad' := by
  unfold Takes
  rw [start_mapError]
  exact Guarantees.mapError takes raised

theorem takes_pure {value : α} (h : taken value input) :
    (pure value : Reader ε α).Takes input taken bad := h

theorem takes_ofExcept {outcome : Except ε α}
    (guaranteed : Guarantees outcome (fun value => taken value input) bad) :
    (ofExcept outcome).Takes input taken bad := by
  cases outcome with
  | error error => exact guaranteed
  | ok value => exact guaranteed

end Steps

end Reader

theorem Guarantees.run {reader : Reader ε α} {input : Octets} {good : α → Prop} {bad : ε → Prop}
    (takes : reader.Takes input (fun value _ => good value) bad) :
    Guarantees (Reader.run input reader) good bad := by
  rw [Reader.run_eq_start]
  exact Guarantees.map takes

/-! Errors are told in brief. -/

section Errors

def Error.IsBrief (error : Error) : Prop :=
  Text.IsBrief error.message

instance (error : Error) : Decidable error.IsBrief :=
  inferInstanceAs (Decidable (Text.IsBrief error.message))

variable {input : Octets} {error : Error}

theorem Error.isBrief_lengthTooLarge {octets : Nat} (low : octets < 128) :
    (Error.lengthTooLarge octets).IsBrief := by
  have digits : Text.size (toString octets) ≤ 4 * 3 := Text.size_natRepr_le (by decide) (by omega)
  have front : Text.size "Length field of " ≤ 16 := by decide
  have back : Text.size " octets is too large" ≤ 20 := by decide
  have told := Text.size_append_le (Text.size_append_le front digits) back
  exact told.trans (by decide)

theorem Error.isBrief_unexpectedTag (expected found : UInt8) :
    (Error.unexpectedTag expected found).IsBrief := by
  have front : Text.size "Expected tag 0x" ≤ 15 := by decide
  have between : Text.size ", found 0x" ≤ 10 := by decide
  have told := Text.size_append_le
    (Text.size_append_le (Text.size_append_le front (Text.size_hex_le expected)) between)
    (Text.size_hex_le found)
  exact told.trans (by decide)

theorem Length.isBrief_of_read (h : read input = .error error) : error.IsBrief := by
  cases input with
  | nil => cases h
  | cons first rest =>
    have octet := first.toNat_lt
    simp only [read] at h
    split at h
    · cases h
    · split at h
      · cases h
        decide
      · split at h
        · cases h
          exact Error.isBrief_lengthTooLarge (by omega)
        · split at h <;> cases h

theorem Element.isBrief_of_read (h : read input = .error error) : error.IsBrief := by
  cases input with
  | nil =>
    cases h
    decide
  | cons tag tail =>
    simp only [read] at h
    split at h
    · cases h
      decide
    · cases found : Length.read tail with
      | error other =>
        rw [found] at h
        cases h
        exact Length.isBrief_of_read found
      | ok measured =>
        rw [found] at h
        cases measured with
        | none =>
          cases h
          decide
        | some length =>
          simp only [bind, Except.bind] at h
          split at h
          · cases h
            decide
          · cases h

end Errors

/-! What each reader takes, and what the loops over elements make of it. -/

theorem Encoded.length_octets_ge (encoded : Encoded) :
    encoded.value.length + 2 ≤ encoded.octets.length := by
  have sized : 1 ≤ encoded.field.length :=
    Length.one_le_size_of_read (encoded.isField.2 [])
  simp only [octets, List.length_cons, List.length_append]
  omega

def Integer.IsWord (number : Int) : Prop :=
  -2 ^ 63 ≤ number ∧ number < 2 ^ 63

theorem Integer.read_guarantees (content : Octets) :
    Guarantees (read content) IsWord Error.IsBrief := by
  have refused : Error.invalidInteger.IsBrief := by decide
  cases content with
  | nil => exact refused
  | cons first rest =>
    by_cases long : 8 < (first :: rest).length
    · rw [read, if_pos long]
      exact refused
    · have word := value_small (List.cons_ne_nil first rest) 7 (Nat.le_of_not_lt long)
      rw [read, if_neg long]
      change IsWord (value (first :: rest))
      exact ⟨by omega, by omega⟩

namespace Reader

section Elements

variable (input : Octets) (tag : UInt8)

theorem takes_element : element.Takes input
    (fun found rest => found.value.length + 2 + rest.length ≤ input.length) Error.IsBrief := by
  simp only [Takes, start, element]
  cases read : Element.read input with
  | error error => exact Element.isBrief_of_read read
  | ok found =>
    obtain ⟨encoded, same, rfl⟩ := Encoded.exists_of_read read
    have sized := encoded.length_octets_ge
    change found.1.value.length + 2 + found.2.length ≤ _
    rw [← same, List.length_append]
    exact Nat.add_le_add_right sized _

theorem takes_expect : (expect tag).Takes input
    (fun content rest => content.length + 2 + rest.length ≤ input.length) Error.IsBrief := by
  refine (takes_element input).bind fun found rest taken => ?_
  split
  · exact taken
  · exact Error.isBrief_unexpectedTag tag found.tag

theorem takes_optional : (optional tag).Takes input
    (fun found rest => (found.elim 0 fun content => content.length + 2) + rest.length ≤ input.length)
    Error.IsBrief := by
  by_cases here : input.head? = some tag
  · have same : optional tag input = (some <$> expect tag) input := by
      rw [optional, bind_of_ok (peek_apply _), if_pos here]
    refine .of_eq same (.map ?_)
    exact takes_expect input tag
  · have same : optional tag input = (pure none : Reader Error (Option Octets)) input :=
      optional_absent here
    exact .of_eq same (takes_pure (Nat.le_of_eq (Nat.zero_add _)))

theorem takes_integer : (integer tag).Takes input
    (fun number rest => Integer.IsWord number ∧ rest.length ≤ input.length) Error.IsBrief := by
  refine (takes_expect input tag).bind fun content rest taken => takes_ofExcept ?_
  exact (Integer.read_guarantees content).mono fun number word => ⟨word, by omega⟩

theorem takes_boolean : boolean.Takes input (fun _ rest => rest.length ≤ input.length)
    Error.IsBrief := by
  refine (takes_expect input _).bind fun content rest taken => takes_ofExcept ?_
  unfold booleanOf
  split
  · change rest.length ≤ input.length
    omega
  · change Error.invalidBoolean.IsBrief
    decide

theorem textOf_guarantees (content : Octets) :
    Guarantees (textOf content) (fun text => Text.size text = content.length) Error.IsBrief := by
  unfold textOf
  split
  · next text found => exact congrArg List.length (Text.eq_utf8_of_ofUtf8? found).symm
  · change Error.invalidUtf8.IsBrief
    decide

theorem takes_text : (text tag).Takes input
    (fun text rest => Text.size text + 2 + rest.length ≤ input.length) Error.IsBrief := by
  refine (takes_expect input tag).bind fun content rest taken => takes_ofExcept ?_
  exact (textOf_guarantees content).mono fun text same => same ▸ taken

theorem takes_optionalText : (optionalText tag).Takes input
    (fun found rest => (found.elim 0 fun text => Text.size text + 2) + rest.length ≤ input.length)
    Error.IsBrief := by
  refine (takes_optional input tag).bind fun found rest taken => ?_
  cases found with
  | none => exact taken
  | some content =>
    refine Takes.map (takes_ofExcept ((textOf_guarantees content).mono fun text same => ?_))
    change Text.size text + 2 + rest.length ≤ input.length
    rw [same]
    exact taken

theorem takes_finish : finish.Takes input (fun _ _ => True) Error.IsBrief := by
  cases input with
  | nil => exact trivial
  | cons first rest =>
    change Error.trailingData.IsBrief
    decide

end Elements

end Reader

section Lists

variable {raise : Error → ε} {bad : ε → Prop} (raised : ∀ error, error.IsBrief → bad (raise error))

include raised

/-- What is kept of the state may depend on how many octets are still to come. -/
theorem foldElements_guarantees {step : β → Element → Except ε β} {kept : Nat → β → Prop}
    (keeps : ∀ room left state found, found.value.length + 2 + left ≤ room → kept room state →
      Guarantees (step state found) (kept left) bad)
    {state : β} {input : Octets} (begun : kept input.length state) :
    Guarantees (foldElements raise step state input) (kept 0) bad := by
  induction input using octets_induction generalizing state with
  | nil =>
    rw [foldElements_nil]
    exact begun
  | broken input error nonempty broken =>
    rw [foldElements_broken nonempty broken]
    exact raised error (Element.isBrief_of_read broken)
  | cons encoded rest ih =>
    have sized := encoded.length_octets_ge
    rw [List.length_append] at begun
    rw [foldElements_octets]
    exact (keeps _ rest.length state _ (Nat.add_le_add_right sized _) begun).bind fun next => ih

/-- The values are worth no more together than the octets that they were read from. -/
theorem mapElements_guarantees {item : Element → Except ε α} {worth : α → Nat}
    (each : ∀ found, Guarantees (item found) (fun value => worth value ≤ found.value.length + 2) bad)
    (input : Octets) :
    Guarantees (mapElements raise item input) (fun values => (values.map worth).sum ≤ input.length)
      bad := by
  let kept (room : Nat) (values : List α) := (values.map worth).sum + room ≤ input.length
  have keeps (room left : Nat) (values : List α) (found : Element)
      (paid : found.value.length + 2 + left ≤ room) (before : kept room values) :
      Guarantees ((item found).map (· :: values)) (kept left) bad := by
    refine Guarantees.map ((each found).mono fun value worthy => ?_)
    simp only [kept, List.map_cons, List.sum_cons] at before ⊢
    omega
  have begun : kept input.length [] := Nat.le_of_eq (Nat.zero_add _)
  refine Guarantees.map ((foldElements_guarantees raised keeps begun).mono fun values paid => ?_)
  rw [List.map_reverse, List.sum_reverse]
  exact paid

end Lists

end LdapService.Ber

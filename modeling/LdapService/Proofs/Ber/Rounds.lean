import LdapService.Proofs.Ber.Guarantees

/-!
The rounds of loops over elements. A reading in which every round is noted is put beside the one
that is run, part by part; it comes to the same, each of its rounds takes two octets at least, and
there are no more of them, in all the loops one inside another, than half of the octets.
-/

namespace LdapService.Ber

/-- One round of a loop: what there was to read before it, and what it leaves to the next one. -/
structure Round where
  before : Octets
  after : Octets

def Round.Advances (round : Round) : Prop :=
  ∃ taken : Octets, 2 ≤ taken.length ∧ round.before = taken ++ round.after

/-- A reading, with the rounds of its loops in their order. -/
structure Traced (ε α : Type) where
  rounds : List Round
  outcome : Except ε α

namespace Traced

variable {ε δ α β : Type}

def of (outcome : Except ε α) : Traced ε α :=
  ⟨[], outcome⟩

def note (round : Round) : Traced ε Unit :=
  ⟨[round], .ok ()⟩

protected def bind (first : Traced ε α) (next : α → Traced ε β) : Traced ε β :=
  match first.outcome with
  | .ok value => ⟨first.rounds ++ (next value).rounds, (next value).outcome⟩
  | .error error => ⟨first.rounds, .error error⟩

instance : Monad (Traced ε) where
  pure value := of (.ok value)
  bind := Traced.bind

def mapError (f : ε → δ) (traced : Traced ε α) : Traced δ α :=
  ⟨traced.rounds, traced.outcome.mapError f⟩

def conclude (judge : Except ε α → Except δ β) (traced : Traced ε α) : Traced δ β :=
  ⟨traced.rounds, judge traced.outcome⟩

def unspent (left : α → Nat) : Except ε α → Nat
  | .ok value => left value
  | .error _ => 0

/-- The outcome is this one, and every round has taken something. There is room for two octets for
each of them, besides what is left. -/
structure Follows (traced : Traced ε α) (outcome : Except ε α) (room : Nat)
    (left : α → Nat := fun _ => 0) : Prop where
  same : traced.outcome = outcome
  advances : ∀ round ∈ traced.rounds, round.Advances
  count : 2 * traced.rounds.length + unspent left outcome ≤ room

theorem unspent_last (outcome : Except ε α) : unspent (fun _ => 0) outcome = 0 := by
  cases outcome <;> rfl

theorem unspent_le {outcome : Except ε α} {left : α → Nat} {room : Nat} {bad : ε → Prop}
    (guaranteed : Guarantees outcome (fun value => left value ≤ room) bad) :
    unspent left outcome ≤ room := by
  cases outcome with
  | error error => exact room.zero_le
  | ok value => exact guaranteed

namespace Follows

variable {traced : Traced ε α} {outcome : Except ε α} {room spent : Nat} {left : α → Nat}

theorem of (within : unspent left outcome ≤ room) :
    (Traced.of outcome).Follows outcome room left :=
  ⟨rfl, List.forall_mem_nil _, (Nat.zero_add _).le.trans within⟩

theorem last (outcome : Except ε α) (room : Nat) : (Traced.of outcome).Follows outcome room :=
  of ((unspent_last outcome).le.trans room.zero_le)

theorem mono (follows : traced.Follows outcome spent left) (within : spent ≤ room) :
    traced.Follows outcome room left :=
  ⟨follows.same, follows.advances, follows.count.trans within⟩

theorem keep (follows : traced.Follows outcome spent) (kept : Nat) :
    traced.Follows outcome (spent + kept) fun _ => kept := by
  refine ⟨follows.same, follows.advances, ?_⟩
  have count := Nat.le_of_add_right_le follows.count
  cases outcome with
  | error error => exact Nat.le_add_right_of_le count
  | ok value => exact Nat.add_le_add_right count kept

theorem mapError (follows : traced.Follows outcome room left) (f : ε → δ) :
    (traced.mapError f).Follows (outcome.mapError f) room left := by
  refine ⟨congrArg (Except.mapError f) follows.same, follows.advances, ?_⟩
  have count := follows.count
  cases outcome <;> exact count

theorem conclude (follows : traced.Follows outcome room left)
    (judge : Except ε α → Except δ β) : (traced.conclude judge).Follows (judge outcome) room := by
  refine ⟨congrArg judge follows.same, follows.advances, ?_⟩
  rw [unspent_last]
  exact Nat.le_of_add_right_le follows.count

variable {next : α → Traced ε β} {next' : α → Except ε β} {left' : β → Nat}

theorem bind (follows : traced.Follows outcome room left)
    (goesOn : ∀ value, (next value).Follows (next' value) (left value) left') :
    (traced >>= next).Follows (outcome >>= next') room left' := by
  obtain ⟨rounds, found⟩ := traced
  obtain ⟨rfl, advances, count⟩ := follows
  cases found with
  | error error => exact ⟨rfl, advances, count⟩
  | ok value =>
    have more := goesOn value
    refine ⟨more.same, List.forall_mem_append.2 ⟨advances, more.advances⟩, ?_⟩
    have later := more.count
    change 2 * rounds.length + left value ≤ room at count
    change 2 * (rounds ++ (next value).rounds).length + unspent left' (next' value) ≤ room
    rw [List.length_append]
    omega

theorem of_bind {good : α → Prop} {bad : ε → Prop} (guaranteed : Guarantees outcome good bad)
    (goesOn : ∀ value, good value → (next value).Follows (next' value) room left') :
    (Traced.of outcome >>= next).Follows (outcome >>= next') room left' := by
  cases outcome with
  | error error => exact of room.zero_le
  | ok value => exact goesOn value guaranteed

theorem map (follows : traced.Follows outcome room) (f : α → β) :
    (f <$> traced).Follows (f <$> outcome) room := by
  have mapped : f <$> outcome = outcome >>= fun value => .ok (f value) :=
    map_eq_pure_bind f outcome
  rw [mapped]
  exact follows.bind fun value => last (.ok (f value)) 0

theorem noted {round : Round} (advances : round.Advances)
    (follows : traced.Follows outcome spent left) (within : 2 + spent ≤ room) :
    (note round >>= fun _ => traced).Follows outcome room left := by
  refine ⟨follows.same, List.forall_mem_cons.2 ⟨advances, follows.advances⟩, ?_⟩
  have later := follows.count
  change 2 * (traced.rounds.length + 1) + unspent left outcome ≤ room
  omega

end Follows

end Traced

/-! Loops. A round is noted as soon as its element has been taken. -/

section Loops

variable {ε α β : Type} {raise : Error → ε}

def foldRounds (raise : Error → ε) (step : β → Element → Traced ε β) (state : β)
    (input : Octets) : Traced ε β :=
  if input = [] then .of (.ok state)
  else
    match _ : Element.read input with
    | .error error => .of (.error (raise error))
    | .ok (found, rest) => do
        .note ⟨input, rest⟩
        let next ← step state found
        foldRounds raise step next rest
termination_by input.length
decreasing_by
  have := Element.length_read ‹_›
  omega

def mapRounds (raise : Error → ε) (item : Element → Traced ε α) (input : Octets) :
    Traced ε (List α) :=
  List.reverse <$> foldRounds raise (fun values found => (· :: values) <$> item found) [] input

theorem foldRounds_octets (step : β → Element → Traced ε β) (state : β) (encoded : Encoded)
    (rest : Octets) :
    foldRounds raise step state (encoded.octets ++ rest) =
      Traced.note ⟨encoded.octets ++ rest, rest⟩ >>= fun _ =>
        step state encoded.element >>= fun next => foldRounds raise step next rest := by
  have read := encoded.read_octets rest
  have nonempty : encoded.octets ++ rest ≠ [] := List.cons_ne_nil _ _
  rw [foldRounds, if_neg nonempty]
  split
  · next failed =>
    rw [read] at failed
    cases failed
  · next done =>
    rw [read] at done
    cases done
    rfl

theorem foldRounds_broken {input : Octets} {error : Error} (nonempty : input ≠ [])
    (broken : Element.read input = .error error) (step : β → Element → Traced ε β) (state : β) :
    foldRounds raise step state input = .of (.error (raise error)) := by
  rw [foldRounds, if_neg nonempty]
  split
  · next failed =>
    rw [broken] at failed
    cases failed
    rfl
  · next read =>
    rw [broken] at read
    cases read

variable {step : β → Element → Traced ε β} {step' : β → Element → Except ε β}
  {item : Element → Traced ε α} {item' : Element → Except ε α}

/-- The rounds inside an element are paid from its value, its own round from what is before it. -/
theorem foldRounds_follows
    (each : ∀ state found, (step state found).Follows (step' state found) found.value.length)
    (state : β) (input : Octets) :
    (foldRounds raise step state input).Follows (foldElements raise step' state input)
      input.length := by
  induction input using octets_induction generalizing state with
  | nil =>
    rw [foldElements_nil, foldRounds, if_pos rfl]
    exact .last _ _
  | broken input error nonempty broken =>
    rw [foldElements_broken nonempty broken, foldRounds_broken nonempty broken]
    exact .last _ _
  | cons encoded rest ih =>
    have sized := encoded.length_octets_ge
    have advances : Round.Advances ⟨encoded.octets ++ rest, rest⟩ :=
      ⟨encoded.octets, by omega, rfl⟩
    have shared : 2 + (encoded.element.value.length + rest.length) ≤
        (encoded.octets ++ rest).length := by
      change 2 + (encoded.value.length + rest.length) ≤ _
      rw [List.length_append]
      omega
    rw [foldElements_octets, foldRounds_octets]
    exact .noted advances (((each state encoded.element).keep rest.length).bind ih) shared

theorem mapRounds_follows
    (each : ∀ found, (item found).Follows (item' found) found.value.length) (input : Octets) :
    (mapRounds raise item input).Follows (mapElements raise item' input) input.length :=
  .map (foldRounds_follows (fun values found => (each found).map (· :: values)) [] input)
    List.reverse

end Loops

/-! Readers that go through loops. -/

/-- A reader in which the rounds are noted. -/
abbrev Tracing (ε : Type) : Type → Type :=
  StateT Octets (Traced ε)

namespace Tracing

variable {ε α β : Type}

def plain (reader : Reader ε α) : Tracing ε α :=
  fun input => .of (Reader.start input reader)

instance : MonadLift (Reader ε) (Tracing ε) :=
  ⟨plain⟩

def run (value : Octets) (tracing : Tracing ε α) : Traced ε α :=
  Prod.fst <$> tracing value

def Follows (tracing : Tracing ε α) (reader : Reader ε α) (input : Octets) (room : Nat)
    (left : α → Nat := fun _ => 0) : Prop :=
  Traced.Follows (tracing input) (Reader.start input reader) room fun found => left found.1

variable {reader : Reader ε α} {input : Octets} {room : Nat} {left : α → Nat}

theorem run_follows {tracing : Tracing ε α} (follows : tracing.Follows reader input room left) :
    (run input tracing).Follows (Reader.run input reader) room left := by
  have mapped : Reader.run input reader =
      Reader.start input reader >>= fun found => .ok found.1 := by
    rw [Reader.run_eq_start, map_eq_pure_bind]
    rfl
  rw [mapped]
  exact follows.bind fun found => .of (Nat.le_refl (left found.1))

theorem last (reader : Reader ε α) (input : Octets) (room : Nat) :
    (plain reader).Follows reader input room :=
  .last _ room

theorem of {bad : ε → Prop}
    (takes : reader.Takes input (fun value _ => left value ≤ room) bad) :
    (plain reader).Follows reader input room left :=
  .of (Traced.unspent_le takes)

variable {next : α → Tracing ε β} {next' : α → Reader ε β} {left' : β → Nat}

theorem plain_bind {taken : α → Octets → Prop} {bad : ε → Prop}
    (takes : reader.Takes input taken bad)
    (goesOn : ∀ value rest, taken value rest → (next value).Follows (next' value) rest room left') :
    (plain reader >>= next).Follows (reader >>= next') input room left' := by
  unfold Follows
  rw [Reader.start_bind]
  exact .of_bind takes fun found => goesOn found.1 found.2

theorem lift_bind_apply (traced : Traced ε α) (next : α → Tracing ε β) (input : Octets) :
    ((liftM traced : Tracing ε α) >>= next) input = traced >>= fun value => next value input := by
  obtain ⟨rounds, outcome⟩ := traced
  cases outcome with
  | error error => rfl
  | ok value =>
    change Traced.mk ((rounds ++ []) ++ _) _ = Traced.mk (rounds ++ _) _
    rw [List.append_nil]

theorem traced_bind {traced : Traced ε α} {outcome : Except ε α} {spent kept : Nat}
    (follows : traced.Follows outcome spent) (within : spent + kept ≤ room)
    (goesOn : ∀ value, (next value).Follows (next' value) input kept left') :
    ((liftM traced : Tracing ε α) >>= next).Follows (Reader.ofExcept outcome >>= next') input
      room left' := by
  have judged : Reader.start input (Reader.ofExcept outcome >>= next') =
      outcome >>= fun value => Reader.start input (next' value) := by
    cases outcome <;> rfl
  unfold Follows
  rw [lift_bind_apply, judged]
  exact ((follows.keep kept).bind goesOn).mono within

end Tracing

end LdapService.Ber

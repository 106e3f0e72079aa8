import LdapService.Proofs.Ber.Contents

/-!
What comes of a change in octets that were accepted. A reader comes to the changed content by
the way that it went before, and refuses it or takes it. A refusal passes through all that is
built around it: what follows in the same run is never reached, and what encloses the run gives
the error on. What is taken is given on as well.
-/

namespace LdapService.Ber

variable {ε δ α β γ κ : Type} {change : UInt8 → Octets → Octets → Prop} {error : ε}

/-- Where a value was found before a change, the outcome after it is as told. -/
def Turns (changed : κ → κ → Prop) (outcome : α → Except ε α → Prop) (judge : κ → Except ε α) :
    Prop :=
  ∀ ⦃before after value⦄, changed before after → judge before = .ok value →
    outcome value (judge after)

/-- What is accepted before a change is refused after it, with this error. -/
def Refuses (changed : κ → κ → Prop) (error : ε) (judge : κ → Except ε α) : Prop :=
  Turns changed (fun _ outcome => outcome = .error error) judge

/-- What is accepted before a change is accepted after it, and the change is carried on. -/
def Carries (changed : κ → κ → Prop) (changed' : α → α → Prop) (judge : κ → Except ε α) : Prop :=
  Turns changed (fun value outcome => ∃ value', changed' value value' ∧ outcome = .ok value') judge

def RefusesElement (change : UInt8 → Octets → Octets → Prop) (error : ε)
    (judge : Element → Except ε α) : Prop :=
  ∀ tag, Refuses (change tag) error fun value => judge ⟨tag, value⟩

def Beside (changed : β → β → Prop) (found found' : α × β) : Prop :=
  found.1 = found'.1 ∧ changed found.2 found'.2

section Refuses

variable {changed changed₁ changed₂ : κ → κ → Prop} {changed' : α → α → Prop}
  {judge : κ → Except ε α}

theorem Refuses.bind (refuses : Refuses changed error judge) (next : κ → α → Except ε β) :
    Refuses changed error fun input => judge input >>= next input := by
  intro before after value apart accepted
  obtain ⟨found, judged, -⟩ := Reader.of_bind_ok accepted
  change judge after >>= next after = _
  rw [refuses apart judged]
  rfl

theorem Refuses.map (refuses : Refuses changed error judge) (f : α → β) :
    Refuses changed error fun input => f <$> judge input := by
  intro before after value apart accepted
  obtain ⟨found, judged, -⟩ := Reader.of_map_ok accepted
  change f <$> judge after = _
  rw [refuses apart judged]
  rfl

theorem Refuses.mapError (refuses : Refuses changed error judge) (f : ε → δ) :
    Refuses changed (f error) fun input => (judge input).mapError f := by
  intro before after value apart accepted
  change (judge after).mapError f = _
  cases judged : judge before with
  | error other =>
    simp only [judged] at accepted
    cases accepted
  | ok found =>
    rw [refuses apart judged]
    rfl

theorem Refuses.mono (refuses : Refuses changed₁ error judge)
    (weaker : ∀ before after, changed₂ before after → changed₁ before after) :
    Refuses changed₂ error judge :=
  fun _ _ _ apart accepted => refuses (weaker _ _ apart) accepted

theorem Refuses.or (refuses₁ : Refuses changed₁ error judge)
    (refuses₂ : Refuses changed₂ error judge) :
    Refuses (fun before after => changed₁ before after ∨ changed₂ before after) error judge := by
  rintro before after value (apart | apart) accepted
  · exact refuses₁ apart accepted
  · exact refuses₂ apart accepted

theorem Refuses.beside {changed : γ → γ → Prop} {next : α × γ → Except ε β}
    (refuses : ∀ first, Refuses changed error fun second => next (first, second)) :
    Refuses (Beside changed) error next := by
  rintro ⟨first, second⟩ ⟨_, second'⟩ value ⟨rfl, apart⟩ accepted
  exact refuses first apart accepted

theorem Carries.mapError (carries : Carries changed changed' judge) (f : ε → δ) :
    Carries changed changed' fun input => (judge input).mapError f := by
  intro before after found apart accepted
  cases judged : judge before with
  | error other =>
    simp only [judged] at accepted
    cases accepted
  | ok value =>
    obtain ⟨found', apart', judged'⟩ := carries apart judged
    simp only [judged] at accepted
    cases accepted
    refine ⟨found', apart', ?_⟩
    change (judge after).mapError f = _
    rw [judged']
    rfl

theorem Carries.bind (carries : Carries changed changed' judge) {next : α → Except ε β}
    {outcome : β → Except ε β → Prop} (turns : Turns changed' outcome next) :
    Turns changed outcome fun input => judge input >>= next := by
  intro before after value apart accepted
  obtain ⟨found, judged, accepted⟩ := Reader.of_bind_ok accepted
  obtain ⟨found', apart', judged'⟩ := carries apart judged
  change outcome value (judge after >>= next)
  rw [judged']
  exact turns apart' accepted

theorem Carries.map (carries : Carries changed changed' judge) {f : α → β}
    {changed₃ : β → β → Prop} (keeps : ∀ found found', changed' found found' →
      changed₃ (f found) (f found')) :
    Carries changed changed₃ fun input => f <$> judge input := by
  intro before after value apart accepted
  obtain ⟨found, judged, rfl⟩ := Reader.of_map_ok accepted
  obtain ⟨found', apart', judged'⟩ := carries apart judged
  refine ⟨f found', keeps _ _ apart', ?_⟩
  change f <$> judge after = _
  rw [judged']
  rfl

end Refuses

theorem Reader.expectation_carries (change : UInt8 → Octets → Octets → Prop) (tag tag' : UInt8) :
    Carries (change tag') (change tag) fun value => expectation tag ⟨tag', value⟩ := by
  intro before after found apart accepted
  by_cases same : tag' = tag
  · subst same
    simp only [expectation, if_true] at accepted ⊢
    cases accepted
    exact ⟨after, apart, rfl⟩
  · simp only [expectation, if_neg same] at accepted
    cases accepted

theorem RefusesElement.expect {tag : UInt8} {judge : Octets → Except Error α} {error : Error}
    (refuses : Refuses (change tag) error judge) :
    RefusesElement change error fun element => Reader.expectation tag element >>= judge :=
  fun tag' => (Reader.expectation_carries change tag tag').bind refuses

theorem RefusesElement.enclosed {tag : UInt8} {changed : Octets → Octets → Prop}
    {judge : Octets → Except ε α} (raise : Error → ε) (refuses : Refuses changed error judge) :
    RefusesElement (fun _ => changed) error fun element =>
      (Reader.expectation tag element).mapError raise >>= judge :=
  fun tag' =>
    ((Reader.expectation_carries (fun _ => changed) tag tag').mapError raise).bind refuses

namespace Reader

def TurnsRun (changed : Octets → Octets → Prop) (outcome : α → Except ε α → Prop)
    (reader : Reader ε α) : Prop :=
  Turns changed outcome fun input => run input reader

/-- The reader comes to the changed content and refuses it. -/
def RefusesRun (changed : Octets → Octets → Prop) (error : ε) (reader : Reader ε α) : Prop :=
  Refuses changed error fun input => run input reader

/-- The reader comes to the changed content and takes it. -/
def CarriesRun (changed : Octets → Octets → Prop) (changed' : α → α → Prop)
    (reader : Reader ε α) : Prop :=
  Carries changed changed' fun input => run input reader

section Turns

variable {reader : Reader ε α} {judge : Element → Except ε α} {next : α → Reader ε β}
  {changed : Octets → Octets → Prop} {index : Nat} {outcome : β → Except ε β → Prop}

theorem TurnsRun.later (takes : reader.TakesOne judge)
    (turns : ∀ found, TurnsRun (ChangedAt change index) outcome (next found)) :
    TurnsRun (ChangedAt change (index + 1)) outcome (reader >>= next) := by
  intro input input' value apart accepted
  obtain ⟨rest, accepted⟩ := of_run_ok accepted
  cases apart with
  | later encoded apart =>
    obtain ⟨found, judged, accepted⟩ := takes.of_bind_ok accepted
    change outcome value ((reader >>= next) _).1
    rw [takes.bind_of_ok judged]
    exact turns found apart (congrArg Prod.fst accepted)

theorem TurnsRun.check (judged : Except ε α)
    (turns : ∀ found, TurnsRun changed outcome (next found)) :
    TurnsRun changed outcome (ofExcept judged >>= next) := by
  intro input input' value apart accepted
  cases judged with
  | error other => cases accepted
  | ok found => exact turns found apart accepted

end Turns

section Refusal

variable {reader : Reader ε α} {judge : Element → Except ε α} {next : α → Reader ε β}

theorem RefusesRun.here (takes : reader.TakesOne judge)
    (refuses : RefusesElement change error judge) (next : α → Reader ε β) :
    RefusesRun (ChangedAt change 0) error (reader >>= next) := by
  intro input input' value apart accepted
  obtain ⟨rest, accepted⟩ := of_run_ok accepted
  cases apart with
  | @here encoded content same apart after =>
    obtain ⟨found, judged, -⟩ := takes.of_bind_ok accepted
    have refused : judge (encoded.exchange content same).element = .error error :=
      refuses encoded.tag apart judged
    change ((reader >>= next) _).1 = _
    rw [takes.bind_of_error refused]

theorem RefusesRun.judged (takes : reader.TakesOne judge) {judge' : α → Except ε β}
    (refuses : RefusesElement change error fun element => judge element >>= judge')
    (next : β → Reader ε γ) :
    RefusesRun (ChangedAt change 0) error
      (reader >>= fun found => ofExcept (judge' found) >>= next) := by
  rw [← bind_assoc]
  exact RefusesRun.here (takes.judged judge') refuses next

/-- The changed element is the one at hand or any behind it. -/
theorem RefusesRun.hereOrLater (takes : reader.TakesOne judge)
    (refuses : RefusesElement change error judge)
    (refuses' : ∀ found, RefusesRun (Changed change) error (next found)) :
    RefusesRun (Changed change) error (reader >>= next) := by
  rintro input input' value ⟨index, apart⟩ accepted
  cases index with
  | zero => exact RefusesRun.here takes refuses next apart accepted
  | succ index =>
    have behind (found : α) : RefusesRun (ChangedAt change index) error (next found) :=
      fun _ _ _ apart accepted => refuses' found ⟨index, apart⟩ accepted
    exact TurnsRun.later takes behind apart accepted

theorem RefusesRun.optional {tag : UInt8} {reader : Reader ε (Option α)}
    {judge : Octets → Except ε α} (takes : TakesIf tag reader judge)
    (refuses : Refuses (change tag) error judge) {next : Option α → Reader ε β}
    (refuses' : ∀ found, RefusesRun (Changed change) error (next found)) :
    RefusesRun (Changed change) error (reader >>= next) := by
  rintro input input' value ⟨index, apart⟩ accepted
  obtain ⟨last, accepted⟩ := of_run_ok accepted
  change ((reader >>= next) _).1 = _
  have passedOver {encoded : Encoded} (other : encoded.tag ≠ tag) (rest : Octets) :
      reader (encoded.octets ++ rest) = (.ok none, encoded.octets ++ rest) :=
    takes.absent _ fun head => other (Option.some.inj head)
  cases apart with
  | @here encoded content same apart after =>
    by_cases tagged : encoded.tag = tag
    · obtain ⟨found, between, read, -⟩ := bind_eq_ok accepted
      rw [takes.there encoded tagged] at read
      obtain ⟨value, judged, -⟩ := of_map_ok (Prod.mk.inj read).1
      have refused : judge content = .error error := refuses (tagged ▸ apart) judged
      have read' := takes.there (encoded.exchange content same) tagged after
      have there : (encoded.exchange content same).value = content := rfl
      rw [there, refused] at read'
      rw [bind_of_error read']
    · have tagged' : (encoded.exchange content same).tag ≠ tag := tagged
      rw [bind_of_ok (passedOver tagged after)] at accepted
      rw [bind_of_ok (passedOver tagged' after)]
      exact refuses' none ⟨0, .here same apart after⟩ (congrArg Prod.fst accepted)
  | @later encoded index rest rest' apart =>
    by_cases tagged : encoded.tag = tag
    · obtain ⟨found, between, read, accepted⟩ := bind_eq_ok accepted
      rw [takes.there encoded tagged] at read
      obtain ⟨judged, rfl⟩ := Prod.mk.inj read
      have read' := takes.there encoded tagged rest'
      rw [judged] at read'
      rw [bind_of_ok read']
      exact refuses' found ⟨index, apart⟩ (congrArg Prod.fst accepted)
    · rw [bind_of_ok (passedOver tagged rest)] at accepted
      rw [bind_of_ok (passedOver tagged rest')]
      exact refuses' none ⟨index + 1, .later encoded apart⟩ (congrArg Prod.fst accepted)

theorem RefusesRun.ends {reader : Reader ε Unit} (ends : reader.Ends) (next : Unit → Reader ε α) :
    RefusesRun (Changed change) error (reader >>= next) := by
  rintro input input' value ⟨index, apart⟩ accepted
  obtain ⟨_, accepted⟩ := of_run_ok accepted
  obtain ⟨_, _, ended, -⟩ := bind_eq_ok accepted
  exact absurd (ends ended) apart.nonempty.1

end Refusal

section Taking

variable {changed : α → α → Prop} {changed' : β → β → Prop}

theorem CarriesRun.here {reader : Reader ε α} {judge : Element → Except ε α}
    {next : α → Reader ε β} (takes : reader.TakesOne judge)
    (carries : ∀ tag, Carries (change tag) changed fun value => judge ⟨tag, value⟩)
    (goesOn : ∀ rest, Carries changed changed' fun found => run rest (next found)) :
    CarriesRun (ChangedAt change 0) changed' (reader >>= next) := by
  intro input input' value apart accepted
  obtain ⟨last, accepted⟩ := of_run_ok accepted
  cases apart with
  | @here encoded content same apart after =>
    obtain ⟨found, judged, accepted⟩ := takes.of_bind_ok accepted
    obtain ⟨found', apart', judged'⟩ := carries encoded.tag apart judged
    have judged' : judge (encoded.exchange content same).element = .ok found' := judged'
    change ∃ value', changed' value value' ∧ ((reader >>= next) _).1 = .ok value'
    rw [takes.bind_of_ok judged']
    exact goesOn after apart' (congrArg Prod.fst accepted)

theorem Carries.standBy (reader : Reader ε γ) {f : α → γ → β}
    (keeps : ∀ found found' read, changed found found' → changed' (f found read) (f found' read))
    (input : Octets) :
    Carries changed changed' fun found => run input (reader >>= fun read => pure (f found read)) := by
  intro found found' value apart accepted
  obtain ⟨last, accepted⟩ := of_run_ok accepted
  obtain ⟨read, between, wasRead, accepted⟩ := bind_eq_ok accepted
  cases accepted
  refine ⟨f found' read, keeps _ _ read apart, ?_⟩
  change ((reader >>= _) input).1 = _
  rw [bind_of_ok wasRead]
  rfl

end Taking

end Reader

section Lists

variable {raise : Error → ε}

/-- Elements in front of the changed one are taken as before. -/
theorem Refuses.foldElements {step : β → Element → Except ε β}
    (refuses : ∀ state, RefusesElement change error (step state)) (state : β) :
    Refuses (Changed change) error (foldElements raise step state) := by
  rintro input input' value ⟨index, apart⟩ accepted
  induction apart generalizing state with
  | @here encoded content same apart after =>
    rw [foldElements_octets] at accepted ⊢
    obtain ⟨next, steps, -⟩ := Reader.of_bind_ok accepted
    have refused : step state (encoded.exchange content same).element = .error error :=
      refuses state encoded.tag apart steps
    rw [refused]
    rfl
  | later encoded apart ih =>
    rw [foldElements_octets] at accepted ⊢
    obtain ⟨next, steps, accepted⟩ := Reader.of_bind_ok accepted
    rw [steps]
    exact ih next accepted

theorem Refuses.mapElements {item : Element → Except ε α}
    (refuses : RefusesElement change error item) :
    Refuses (Changed change) error (mapElements raise item) := by
  have steps (values : List α) : RefusesElement change error fun found =>
      (item found).map (· :: values) := by
    intro tag before after value apart accepted
    obtain ⟨found, read, -⟩ := Reader.of_map_ok accepted
    have refused : item ⟨tag, after⟩ = .error error := refuses tag apart read
    change (item ⟨tag, after⟩).map _ = _
    rw [refused]
    rfl
  intro input input' values apart accepted
  obtain ⟨reversed, folded, -⟩ := Reader.of_map_ok accepted
  rw [Ber.mapElements, Refuses.foldElements steps [] apart folded]
  rfl

end Lists

end LdapService.Ber

import Mathlib.Algebra.Ring.Int.Defs
import Mathlib.Data.List.Nodup
import LdapService.Message.Kind
import LdapService.Session.Observation

/-!
Samples of the metrics as counts. The names under which observations are added up are
told apart by their metric and their labels, so each sample counts observations of one
kind and nothing else.
-/

namespace LdapService

theorem RequestKind.mem_all (kind : RequestKind) : kind ∈ all := by
  cases kind <;> decide

theorem ResultCode.mem_all (code : ResultCode) : code ∈ all := by
  cases code <;> decide

theorem RequestKind.name_injective : Function.Injective name := by
  have distinct : (all.map name).Nodup := by decide
  exact fun kind kind' same =>
    List.inj_on_of_nodup_map distinct kind.mem_all kind'.mem_all same

theorem ResultCode.name_injective : Function.Injective name := by
  have distinct : (all.map name).Nodup := by decide
  exact fun code code' same =>
    List.inj_on_of_nodup_map distinct code.mem_all code'.mem_all same

/-- An observation of a session, its operation as one of the protocol. -/
inductive Note where
  | opened
  | closed
  | operation (kind : RequestKind) (code : ResultCode)
  | entry
  | refused
  | malformed
  deriving DecidableEq

def Note.observation : Note → Observation
  | opened => .sessionOpened
  | closed => .sessionClosed
  | operation kind code => .operation kind.name code
  | entry => .entrySent
  | refused => .decodeError false
  | malformed => .decodeError true

def Note.kind? : Note → Option RequestKind
  | operation kind _ => some kind
  | _ => none

namespace Observation

def operations (kind : RequestKind) (code : ResultCode) : String :=
  labelled "ldap_operations_total" [("operation", kind.name), ("result", code.name)]

def durations (kind : RequestKind) : String :=
  labelled "ldap_operation_duration_seconds_count" [("operation", kind.name)]

def decodeErrors (kind : String) : String :=
  labelled "ldap_decode_errors_total" [("kind", kind)]

section Names

theorem append_cons_inj {mark : Char} {before before' after after' : List Char}
    (fresh : mark ∉ before) (fresh' : mark ∉ before')
    (same : before ++ mark :: after = before' ++ mark :: after') :
    before = before' ∧ after = after' := by
  induction before generalizing before' with
  | nil =>
    cases before' with
    | nil => exact ⟨rfl, (List.cons.inj same).2⟩
    | cons head rest => exact absurd ((List.cons.inj same).1 ▸ List.mem_cons_self) fresh'
  | cons head rest ih =>
    cases before' with
    | nil => exact absurd ((List.cons.inj same).1 ▸ List.mem_cons_self) fresh
    | cons head' rest' =>
      obtain ⟨heads, rests⟩ := List.cons.inj same
      obtain ⟨same, later⟩ := ih (fun mem => fresh (List.mem_cons_of_mem _ mem))
        (fun mem => fresh' (List.mem_cons_of_mem _ mem)) rests
      exact ⟨by rw [heads, same], later⟩

theorem labelled_toList (metric : String) (labels : List (String × String)) :
    ∃ rest, (labelled metric labels).toList = metric.toList ++ '\x7b' :: rest := by
  unfold labelled
  rw [String.append_assoc, String.append_assoc, String.toList_append, String.toList_append]
  exact ⟨_, rfl⟩

theorem ne_labelled {name metric : String} {labels : List (String × String)}
    (plain : '\x7b' ∉ name.toList) : name ≠ labelled metric labels := by
  rintro rfl
  obtain ⟨rest, same⟩ := labelled_toList metric labels
  simp [same] at plain

theorem metric_of_labelled {metric metric' : String} {labels labels' : List (String × String)}
    (plain : '\x7b' ∉ metric.toList) (plain' : '\x7b' ∉ metric'.toList)
    (same : labelled metric labels = labelled metric' labels') : metric = metric' := by
  obtain ⟨rest, first⟩ := labelled_toList metric labels
  obtain ⟨rest', second⟩ := labelled_toList metric' labels'
  rw [← String.toList_inj, first, second] at same
  exact String.toList_inj.1 (append_cons_inj plain plain' same).1

def escapeLetter (letter : Char) : List Char :=
  if letter = '\\' then ['\\', '\\']
  else if letter = '"' then ['\\', '"']
  else if letter = '\n' then ['\\', 'n']
  else [letter]

theorem escapeLabel_toList (value : String) :
    (escapeLabel value).toList = value.toList.flatMap escapeLetter := by
  have letters : escapeLabel value =
      String.join (value.toList.map fun letter => String.ofList (escapeLetter letter)) := by
    refine congrArg String.join (List.map_congr_left fun letter _ => ?_)
    unfold escapeLetter
    split
    · rfl
    · rfl
    · rfl
    · next backslash quote newline =>
      rw [if_neg backslash, if_neg quote, if_neg newline]
      rfl
  rw [letters]
  simp [List.flatMap_map]

theorem escapeLetter_append_inj {letter letter' : Char} {rest rest' : List Char}
    (same : escapeLetter letter ++ rest = escapeLetter letter' ++ rest') :
    letter = letter' ∧ rest = rest' := by
  unfold escapeLetter at same
  grind

theorem escapeLetter_ne_nil (letter : Char) : escapeLetter letter ≠ [] := by
  unfold escapeLetter
  grind

theorem escapeLabel_injective : Function.Injective escapeLabel := by
  intro first second same
  rw [← String.toList_inj, escapeLabel_toList, escapeLabel_toList] at same
  rw [← String.toList_inj]
  generalize first.toList = letters, second.toList = letters' at same
  induction letters generalizing letters' with
  | nil =>
    cases letters' with
    | nil => rfl
    | cons letter' => simp [escapeLetter_ne_nil] at same
  | cons letter rest ih =>
    cases letters' with
    | nil => simp [escapeLetter_ne_nil] at same
    | cons letter' rest' =>
      obtain ⟨heads, rests⟩ := escapeLetter_append_inj same
      rw [heads, ih rest' rests]

theorem quote_not_mem_kind (kind : RequestKind) : '"' ∉ (escapeLabel kind.name).toList := by
  cases kind with
  | _ => decide

theorem operations_inj {kind kind' : RequestKind} {code code' : ResultCode} :
    operations kind code = operations kind' code' ↔ kind = kind' ∧ code = code' := by
  refine ⟨fun same => ?_, by rintro ⟨rfl, rfl⟩; rfl⟩
  rw [← String.toList_inj] at same
  simp only [operations, labelled, List.map_cons, List.map_nil, String.intercalate_cons_cons,
    String.intercalate_singleton, String.toList_append, String.append_assoc, String.reduceToList,
    List.cons_append, List.nil_append, List.cons.injEq, true_and] at same
  obtain ⟨kinds, rest⟩ := append_cons_inj (quote_not_mem_kind kind) (quote_not_mem_kind kind') same
  have codes : (escapeLabel code.name).toList = (escapeLabel code'.name).toList := by
    simpa using rest
  exact ⟨RequestKind.name_injective (escapeLabel_injective (String.toList_inj.1 kinds)),
    ResultCode.name_injective (escapeLabel_injective (String.toList_inj.1 codes))⟩

theorem durations_inj {kind kind' : RequestKind} :
    durations kind = durations kind' ↔ kind = kind' := by
  refine ⟨fun same => ?_, by rintro rfl; rfl⟩
  rw [← String.toList_inj] at same
  have names : (escapeLabel kind.name).toList = (escapeLabel kind'.name).toList := by
    simpa [durations, labelled] using same
  exact RequestKind.name_injective (escapeLabel_injective (String.toList_inj.1 names))

end Names

section Totals

variable {sample : String}

/-- What one observation adds to a sample. -/
def worth (sample : String) (observation : Observation) : Int :=
  (observation.samples.map fun pair => if pair.1 = sample then pair.2 else 0).sum

theorem foldl_eq_sum (sample : String) (pairs : List (String × Int)) (start : Int) :
    pairs.foldl (fun total pair => if pair.1 == sample then total + pair.2 else total) start =
      start + (pairs.map fun pair => if pair.1 = sample then pair.2 else 0).sum := by
  induction pairs generalizing start with
  | nil => simp
  | cons pair rest ih =>
    rw [List.foldl_cons, ih, List.map_cons, List.sum_cons, ← Int.add_assoc]
    congr 1
    by_cases same : pair.1 = sample
    · simp [same]
    · simp [same]

theorem total_eq_sum (sample : String) (observed : List Observation) :
    total sample observed = (observed.map (worth sample)).sum := by
  rw [total, foldl_eq_sum, Int.zero_add]
  induction observed with
  | nil => rfl
  | cons first rest ih =>
    rw [List.flatMap_cons, List.map_append, List.sum_append, ih, List.map_cons, List.sum_cons,
      worth]

theorem total_eq_countP {counts : Note → Bool}
    (each : ∀ note : Note, worth sample note.observation = if counts note then 1 else 0)
    (notes : List Note) : total sample (notes.map Note.observation) = notes.countP counts := by
  rw [total_eq_sum]
  induction notes with
  | nil => rfl
  | cons first rest ih =>
    rw [List.map_cons, List.map_cons, List.sum_cons, ih, each, List.countP_cons]
    split
    · omega
    · omega

theorem worth_operation (kind : RequestKind) (code : ResultCode) :
    worth sample (.operation kind.name code) =
      (if operations kind code = sample then 1 else 0) + if durations kind = sample then 1 else 0 := by
  simp only [worth, samples, List.map_cons, List.map_nil, List.sum_cons, List.sum_nil, Int.add_zero]
  rfl

theorem worth_decodeError (fatal : Bool) :
    worth sample (.decodeError fatal) =
      if decodeErrors (if fatal then "malformed" else "unsupported") = sample then 1 else 0 := by
  cases fatal with
  | false => simp [worth, samples, decodeErrors]
  | true => simp [worth, samples, decodeErrors]

theorem worth_labelled (metric : String) (labels : List (String × String)) :
    worth (labelled metric labels) .sessionOpened = 0 ∧
      worth (labelled metric labels) .sessionClosed = 0 ∧
        worth (labelled metric labels) .entrySent = 0 := by
  have total : "ldap_sessions_total" ≠ labelled metric labels := ne_labelled (by decide)
  have active : "ldap_sessions_active" ≠ labelled metric labels := ne_labelled (by decide)
  have entries : "ldap_search_entries_total" ≠ labelled metric labels :=
    ne_labelled (by decide)
  simp [worth, samples, total, active, entries]

theorem worth_plain (plain : '\x7b' ∉ sample.toList) (kind : RequestKind) (code : ResultCode)
    (fatal : Bool) :
    worth sample (.operation kind.name code) = 0 ∧ worth sample (.decodeError fatal) = 0 := by
  have ne (metric : String) (labels : List (String × String)) : labelled metric labels ≠ sample :=
    (ne_labelled plain).symm
  simp [worth_operation, worth_decodeError, operations, durations, decodeErrors, ne]

variable {kind : RequestKind} {code : ResultCode} {label : String}

theorem operations_ne_durations {kind' : RequestKind} : operations kind code ≠ durations kind' :=
  fun same => absurd (metric_of_labelled (by decide) (by decide) same)
    (by decide)

theorem operations_ne_decodeErrors : operations kind code ≠ decodeErrors label :=
  fun same => absurd (metric_of_labelled (by decide) (by decide) same)
    (by decide)

theorem durations_ne_decodeErrors : durations kind ≠ decodeErrors label :=
  fun same => absurd (metric_of_labelled (by decide) (by decide) same)
    (by decide)

theorem decodeErrors_malformed_ne : decodeErrors "malformed" ≠ decodeErrors "unsupported" := by
  decide

variable (notes : List Note)

theorem total_labelled {counts : Note → Bool}
    (has : ∃ metric labels, sample = labelled metric labels)
    (unlabelled : counts .opened = false ∧ counts .closed = false ∧ counts .entry = false)
    (operations : ∀ kind code, worth sample (.operation kind.name code) =
      if counts (.operation kind code) then 1 else 0)
    (refused : worth sample (.decodeError false) = if counts .refused then 1 else 0)
    (malformed : worth sample (.decodeError true) = if counts .malformed then 1 else 0) :
    total sample (notes.map Note.observation) = notes.countP counts := by
  obtain ⟨metric, labels, rfl⟩ := has
  obtain ⟨opened, closed, entry⟩ := worth_labelled metric labels
  refine total_eq_countP (fun note => ?_) notes
  cases note with
  | operation kind code => exact operations kind code
  | refused => exact refused
  | malformed => exact malformed
  | opened =>
    rw [unlabelled.1]
    exact opened
  | closed =>
    rw [unlabelled.2.1]
    exact closed
  | entry =>
    rw [unlabelled.2.2]
    exact entry

theorem total_operations (kind : RequestKind) (code : ResultCode) :
    total (operations kind code) (notes.map Note.observation) =
      notes.count (.operation kind code) := by
  have has : ∃ metric labels, operations kind code = labelled metric labels := ⟨_, _, rfl⟩
  apply total_labelled notes has
  · exact ⟨rfl, rfl, rfl⟩
  · intro kind' code'
    rw [worth_operation, if_neg operations_ne_durations.symm]
    simp [operations_inj]
  · rw [worth_decodeError]
    exact if_neg operations_ne_decodeErrors.symm
  · rw [worth_decodeError]
    exact if_neg operations_ne_decodeErrors.symm

theorem total_durations (kind : RequestKind) :
    total (durations kind) (notes.map Note.observation) =
      notes.countP fun note => note.kind? = some kind := by
  have has : ∃ metric labels, durations kind = labelled metric labels := ⟨_, _, rfl⟩
  apply total_labelled notes has
  · exact ⟨rfl, rfl, rfl⟩
  · intro kind' code'
    rw [worth_operation, if_neg operations_ne_durations]
    simp [durations_inj, Note.kind?]
  · rw [worth_decodeError]
    exact if_neg durations_ne_decodeErrors.symm
  · rw [worth_decodeError]
    exact if_neg durations_ne_decodeErrors.symm

theorem worth_operation_decodeErrors (kind : RequestKind) (code : ResultCode) :
    worth (decodeErrors label) (.operation kind.name code) = 0 := by
  rw [worth_operation, if_neg operations_ne_decodeErrors, if_neg durations_ne_decodeErrors]
  rfl

theorem total_refused :
    total (decodeErrors "unsupported") (notes.map Note.observation) = notes.count .refused := by
  have has : ∃ metric labels, decodeErrors "unsupported" = labelled metric labels := ⟨_, _, rfl⟩
  apply total_labelled notes has
  · exact ⟨rfl, rfl, rfl⟩
  · exact worth_operation_decodeErrors
  · rw [worth_decodeError]
    exact if_pos rfl
  · rw [worth_decodeError]
    exact if_neg decodeErrors_malformed_ne

theorem total_malformed :
    total (decodeErrors "malformed") (notes.map Note.observation) = notes.count .malformed := by
  have has : ∃ metric labels, decodeErrors "malformed" = labelled metric labels := ⟨_, _, rfl⟩
  apply total_labelled notes has
  · exact ⟨rfl, rfl, rfl⟩
  · exact worth_operation_decodeErrors
  · rw [worth_decodeError]
    exact if_neg decodeErrors_malformed_ne.symm
  · rw [worth_decodeError]
    exact if_pos rfl

theorem total_entries :
    total "ldap_search_entries_total" (notes.map Note.observation) = notes.count .entry := by
  have plain := @worth_plain "ldap_search_entries_total" (by decide)
  refine total_eq_countP (fun note => ?_) notes
  cases note with
  | operation kind code => exact (plain kind code true).1
  | refused => exact (plain .bind .success false).2
  | malformed => exact (plain .bind .success true).2
  | opened | closed | entry => decide

theorem total_sessions :
    total "ldap_sessions_total" (notes.map Note.observation) = notes.count .opened := by
  have plain := @worth_plain "ldap_sessions_total" (by decide)
  refine total_eq_countP (fun note => ?_) notes
  cases note with
  | operation kind code => exact (plain kind code true).1
  | refused => exact (plain .bind .success false).2
  | malformed => exact (plain .bind .success true).2
  | opened | closed | entry => decide

theorem total_active :
    total "ldap_sessions_active" (notes.map Note.observation) =
      notes.count .opened - notes.count .closed := by
  have plain := @worth_plain "ldap_sessions_active" (by decide)
  have opened : worth "ldap_sessions_active" .sessionOpened = 1 := by decide
  have closed : worth "ldap_sessions_active" .sessionClosed = -1 := by decide
  have entry : worth "ldap_sessions_active" .entrySent = 0 := by decide
  rw [total_eq_sum]
  induction notes with
  | nil => rfl
  | cons first rest ih =>
    rw [List.map_cons, List.map_cons, List.sum_cons, ih]
    cases first with
    | operation kind code => simp [Note.observation, plain kind code true]
    | refused => simp [Note.observation, plain .bind .success false]
    | malformed => simp [Note.observation, plain .bind .success true]
    | entry => simp [Note.observation, entry]
    | opened =>
      simp [Note.observation, opened]
      omega
    | closed =>
      simp [Note.observation, closed]
      omega

end Totals

end Observation

end LdapService

import LdapService.Directory.Shared
import LdapService.Handler.Directory
import LdapService.Proofs.Directory.Passwords
import LdapService.Proofs.Handler.Questions
import LdapService.Proofs.Session.Blocks

/-!
What an attribute name denotes in an entry. A filter looks for the first attribute with the
name, in whatever case its letters are; a search that asks for the name sends all of them.
These are the same values exactly if no other than the first has any. An entry may have two
spellings of one name, and then a client can be shown a value that no filter finds.
-/

namespace LdapService.Entry

open Matching (Registry)
open Text (sameName)

variable {name : String} {entry : Entry}

def sentFor (name : String) (entry : Entry) : List (String × List String) :=
  (SearchStream.project { id := 1, attributes := [name] } entry).attributes.pairs

def valuesSentFor (name : String) (entry : Entry) : List String :=
  (entry.sentFor name).flatMap (·.2)

/-- Filters and searches mean the same by the name. -/
structure AgreesOn (name : String) (entry : Entry) : Prop where
  absent : entry.sentFor name = [] ↔ entry.get? name = none
  values : entry.valuesSentFor name = (entry.get? name).getD []
  /-- What is seen under the name is found under it. -/
  matched : ∀ (rules : Registry), ∀ value ∈ entry.valuesSentFor name,
    Filter.evaluate rules entry.get? (.equality { attr := name, value }) = .ok .holds

def IsPlain (name : String) : Prop :=
  name ≠ SearchStream.allUserAttributes ∧ name ≠ SearchStream.noAttributes

theorem sameName_comm (first second : String) : sameName first second = sameName second first :=
  Bool.beq_comm

theorem wants_single (plain : IsPlain name) (id : Nat) (other : String) :
    SearchStream.wants { id, attributes := [name] } other = sameName other name := by
  have star : ([name].isEmpty || [name].contains SearchStream.allUserAttributes) = false := by
    simpa using plain.1.symm
  have nothing : [name].all (· == SearchStream.noAttributes) = false := by simpa using plain.2
  simp only [SearchStream.wants, star, nothing]
  simp [sameName_comm other name]

theorem sentFor_eq_filter (plain : IsPlain name) (entry : Entry) :
    entry.sentFor name = entry.attributes.pairs.filter fun pair => sameName pair.1 name := by
  simp only [sentFor, SearchStream.project, Attributes.filter, wants_single plain]

theorem get?_eq_head? (plain : IsPlain name) (entry : Entry) :
    entry.get? name = (entry.sentFor name).head?.map (·.2) := by
  rw [sentFor_eq_filter plain, List.head?_filter]
  rfl

theorem sentFor_eq_nil_iff (plain : IsPlain name) (entry : Entry) :
    entry.sentFor name = [] ↔ entry.get? name = none := by
  rw [get?_eq_head? plain, Option.map_eq_none_iff, List.head?_eq_none_iff]

theorem evaluate_equality_of_mem {values : List String} {value : String} (rules : Registry)
    (found : entry.get? name = some values) (mem : value ∈ values) :
    Filter.evaluate rules entry.get? (.equality { attr := name, value }) = .ok .holds := by
  have accepted : values.any (fun stored => rules.default.equals stored value) = true :=
    List.any_eq_true.2 ⟨value, mem, beq_self_eq_true _⟩
  rw [Filter.evaluate]
  simp only [Filter.evaluateAssertion, Filter.ruleNamed, Filter.someValue, found,
    Option.getD_some]
  exact congrArg (fun any => Except.ok (Truth.ofBool any)) accepted

theorem agreesOn_iff_tail (plain : IsPlain name) :
    entry.AgreesOn name ↔ ∀ later ∈ (entry.sentFor name).tail, later.2 = [] := by
  have looked := get?_eq_head? plain entry
  have absent := sentFor_eq_nil_iff plain entry
  have shown : entry.valuesSentFor name = (entry.sentFor name).flatMap (·.2) := rfl
  cases sent : entry.sentFor name with
  | nil =>
    rw [sent] at looked shown
    refine ⟨fun _ => List.forall_mem_nil _, fun _ => ⟨absent, ?_, ?_⟩⟩
    · rw [shown, looked]
      rfl
    · rw [shown]
      exact fun _ _ mem => absurd mem List.not_mem_nil
  | cons first rest =>
    rw [sent, List.flatMap_cons] at shown
    rw [sent] at looked
    constructor
    · intro agrees
      have values := agrees.values
      rw [shown, looked] at values
      exact List.flatMap_eq_nil_iff.1 (List.append_right_eq_self.1 values)
    · intro empty
      have nothing : rest.flatMap (·.2) = [] := List.flatMap_eq_nil_iff.2 empty
      rw [nothing, List.append_nil] at shown
      refine ⟨absent, by rw [shown, looked]; rfl, ?_⟩
      rw [shown]
      exact fun rules value mem => evaluate_equality_of_mem rules looked mem

theorem mem_tail_sentFor_iff (plain : IsPlain name) {later : String × List String} :
    later ∈ (entry.sentFor name).tail ↔
      later ∈ entry.attributes.pairs ∧ sameName later.1 name = true ∧
        ∃ first ∈ entry.attributes.pairs, sameName first.1 name = true ∧ first.1 < later.1 := by
  have ascending : (entry.sentFor name).Pairwise fun first second => first.1 < second.1 :=
    (SearchStream.project { id := 1, attributes := [name] } entry).attributes.ascending
  have mem_iff (pair : String × List String) : pair ∈ entry.sentFor name ↔
      pair ∈ entry.attributes.pairs ∧ sameName pair.1 name = true := by
    rw [sentFor_eq_filter plain, List.mem_filter]
  cases sent : entry.sentFor name with
  | nil =>
    rw [sent] at mem_iff
    refine ⟨fun mem => absurd mem List.not_mem_nil, fun ⟨mem, named, _⟩ => ?_⟩
    exact absurd ((mem_iff later).2 ⟨mem, named⟩) List.not_mem_nil
  | cons least rest =>
    rw [sent] at mem_iff ascending
    obtain ⟨below, -⟩ := List.pairwise_cons.1 ascending
    have here := (mem_iff least).1 List.mem_cons_self
    constructor
    · intro mem
      have there := (mem_iff later).1 (List.mem_cons_of_mem _ mem)
      exact ⟨there.1, there.2, least, here.1, here.2, below later mem⟩
    · rintro ⟨mem, named, first, mem', named', less⟩
      rcases List.mem_cons.1 ((mem_iff later).2 ⟨mem, named⟩) with rfl | mem
      · -- nothing that fits is below the least
        rcases List.mem_cons.1 ((mem_iff first).2 ⟨mem', named'⟩) with rfl | behind
        · exact absurd less (String.lt_irrefl _)
        · exact absurd (String.lt_trans less (below first behind)) (String.lt_irrefl _)
      · exact mem

/-- An attribute is found exactly if it is sent. And what is found under a name is all that
is sent, and found by an equality filter, exactly if among the attributes with the name, in
any case of its letters, all but the first are without values. -/
theorem agreesOn_iff (plain : IsPlain name) (entry : Entry) :
    (entry.sentFor name = [] ↔ entry.get? name = none) ∧
      (entry.AgreesOn name ↔
        ∀ first ∈ entry.attributes.pairs, ∀ later ∈ entry.attributes.pairs,
          sameName first.1 name = true → sameName later.1 name = true → first.1 < later.1 →
            later.2 = []) := by
  refine ⟨sentFor_eq_nil_iff plain entry, (agreesOn_iff_tail plain).trans ?_⟩
  constructor
  · intro empty first mem later mem' named named' less
    exact empty later ((mem_tail_sentFor_iff plain).2 ⟨mem', named', first, mem, named, less⟩)
  · intro empty later mem
    obtain ⟨mem', named', first, mem, named, less⟩ := (mem_tail_sentFor_iff plain).1 mem
    exact empty first mem later mem' named named' less

/-- A second spelling without values does no harm. -/
theorem agreesOn_iff_mail :
    let entry : Entry := {
      dn := "uid=ann", attributes := .ofPairs [("mail", []), ("Mail", ["ann@example.com"])] }
    IsPlain "MAIL" ∧ entry.sentFor "MAIL" = [("Mail", ["ann@example.com"]), ("mail", [])] ∧
      entry.AgreesOn "MAIL" := by
  intro entry
  have plain : IsPlain "MAIL" := ⟨by decide, by decide⟩
  refine ⟨plain, by decide +kernel, (agreesOn_iff plain entry).2.2 ?_⟩
  decide +kernel

/-- Two spellings of one name, in the order in which an add request or a record may have
them. A search for the name shows the value of the second one, which neither a filter nor a
compare finds. -/
theorem second_spelling_missed :
    let entry : Entry := {
      dn := "uid=ann", attributes := .ofPairs [("cn", ["Annie"]), ("CN", ["Ann"])] }
    let filter : Filter := .equality { attr := "cn", value := "Annie" }
    let search : SearchRequest :=
      { base := "uid=ann", scope := .base, filter, attributes := ["cn"] }
    let compare : CompareRequest := { dn := "uid=ann", attr := "cn", value := "Annie" }
    let directory := Directory.single { dn := entry.dn, attributes := entry.attributes }
    IsPlain "cn" ∧ entry.sentFor "cn" = [("CN", ["Ann"]), ("cn", ["Annie"])] ∧
      search.frame 1 entry = Response.entry 1 entry false ∧
      entry.get? "cn" = some ["Ann"] ∧ filter.evaluate .standard entry.get? = .ok .fails ∧
      ((DirectoryService.compare compare .anonymous).run Shared.environment.answer
        { directory }).1 = .done .anonymous (.ok false) ∧
      ¬entry.AgreesOn "cn" := by
  intro entry filter search compare directory
  have sent : entry.sentFor "cn" = [("CN", ["Ann"]), ("cn", ["Annie"])] := by decide +kernel
  have evaluated : filter.evaluate .standard entry.get? = .ok .fails := by decide +kernel
  refine ⟨⟨by decide, by decide⟩, sent, by decide +kernel, by decide +kernel, evaluated, ?_,
    fun agrees => ?_⟩
  · have found : directory.get? compare.dn = some entry := Directory.get?_single_of_eq rfl
    have answer : DirectoryService.comparison compare (.ok (some entry)) = .ok false := by
      rw [DirectoryService.comparison, if_neg (by decide +kernel)]
      exact congrArg (Except.map fun truth => decide (truth = Truth.holds)) evaluated
    rw [DirectoryService.compare_apply, ← answer, ← found]
    rfl
  · have shown : "Annie" ∈ entry.valuesSentFor "cn" := by
      rw [valuesSentFor, sent]
      decide
    have found := agrees.matched .standard "Annie" shown
    rw [show Filter.evaluate .standard entry.get? _ = _ from evaluated] at found
    cases found

end LdapService.Entry

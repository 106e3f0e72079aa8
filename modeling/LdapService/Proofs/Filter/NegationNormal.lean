import LdapService.Proofs.Filter.Meaning

/-!
Filters in negation normal form. A negation moves inwards over a conjunction or a
disjunction, and turns the one into the other; a combination inside one of its own kind can
be spliced into it. The two combinations are duals to the last detail: they stop at the same
child and pass on the same error. So evaluation cannot tell such filters apart, not even
where it fails.
-/

namespace LdapService.Filter

open Matching (Registry)
open Relation (EqvGen ReflTransGen)

def IsLeaf : Filter → Prop
  | and _ | or _ | not _ => False
  | _ => True

theorem leafInduction {motive : Filter → Prop} (leaf : ∀ filter, IsLeaf filter → motive filter)
    (and : ∀ children, (∀ child ∈ children, motive child) → motive (and children))
    (or : ∀ children, (∀ child ∈ children, motive child) → motive (or children))
    (not : ∀ child, motive child → motive (not child)) (filter : Filter) : motive filter :=
  @Filter.rec motive (fun children => ∀ child ∈ children, motive child)
    (fun _ => leaf _ trivial) (leaf _ trivial) (leaf _ trivial) (leaf _ trivial)
    (fun _ => leaf _ trivial) (fun _ => leaf _ trivial) (fun _ => leaf _ trivial)
    (fun _ => leaf _ trivial) and or not (fun _ => leaf _ trivial) (List.forall_mem_nil _)
    (fun _ _ first rest => List.forall_mem_cons.2 ⟨first, rest⟩) filter

/-- Negations stand before leaves alone. -/
inductive IsNegationNormal : Filter → Prop
  | leaf {filter : Filter} (leaf : IsLeaf filter) : IsNegationNormal filter
  | negated {filter : Filter} (leaf : IsLeaf filter) : IsNegationNormal (not filter)
  | and {children : List Filter} (all : ∀ child ∈ children, IsNegationNormal child) :
      IsNegationNormal (and children)
  | or {children : List Filter} (all : ∀ child ∈ children, IsNegationNormal child) :
      IsNegationNormal (or children)

mutual

/-- Moves the negation before a filter, if there is one, and all those in it to the leaves. -/
def push (negated : Bool) : Filter → Filter
  | and children =>
      if negated then or (pushAll negated children) else and (pushAll negated children)
  | or children =>
      if negated then and (pushAll negated children) else or (pushAll negated children)
  | not child => push (!negated) child
  | leaf => if negated then not leaf else leaf

def pushAll (negated : Bool) : List Filter → List Filter
  | [] => []
  | child :: rest => push negated child :: pushAll negated rest

end

def negationNormal (filter : Filter) : Filter :=
  push false filter

/-- A negation goes one level inwards, or meets another. -/
inductive MovesNegation : Filter → Filter → Prop
  | double (filter : Filter) : MovesNegation (not (not filter)) filter
  | overAnd (children : List Filter) :
      MovesNegation (not (and children)) (or (children.map not))
  | overOr (children : List Filter) :
      MovesNegation (not (or children)) (and (children.map not))

/-- The children of a combination take its place in one of its own kind. -/
inductive Splices : Filter → Filter → Prop
  | and (before inner after : List Filter) :
      Splices (and (before ++ and inner :: after)) (and (before ++ inner ++ after))
  | or (before inner after : List Filter) :
      Splices (or (before ++ or inner :: after)) (or (before ++ inner ++ after))

def Rewrites (filter other : Filter) : Prop :=
  MovesNegation filter other ∨ Splices filter other

/-- A rule applied in one place, at any depth. -/
inductive Within (rule : Filter → Filter → Prop) : Filter → Filter → Prop
  | here {filter other : Filter} (applies : rule filter other) : Within rule filter other
  | inAnd (before after : List Filter) {child child' : Filter} (within : Within rule child child') :
      Within rule (and (before ++ child :: after)) (and (before ++ child' :: after))
  | inOr (before after : List Filter) {child child' : Filter} (within : Within rule child child') :
      Within rule (or (before ++ child :: after)) (or (before ++ child' :: after))
  | inNot {child child' : Filter} (within : Within rule child child') :
      Within rule (not child) (not child')

section Combinations

def andAlso (first rest : Except Failure Truth) : Except Failure Truth := do
  match ← first with
  | .fails => pure .fails
  | .holds => rest
  | .undefined =>
      match ← rest with
      | .fails => pure .fails
      | _ => pure .undefined

def orElse (first rest : Except Failure Truth) : Except Failure Truth := do
  match ← first with
  | .holds => pure .holds
  | .fails => rest
  | .undefined =>
      match ← rest with
      | .holds => pure .holds
      | _ => pure .undefined

theorem andAlso_assoc (first second third : Except Failure Truth) :
    andAlso (andAlso first second) third = andAlso first (andAlso second third) := by
  rcases first with _ | _ | _ | _ <;> rcases second with _ | _ | _ | _ <;>
    rcases third with _ | _ | _ | _ <;> rfl

theorem orElse_assoc (first second third : Except Failure Truth) :
    orElse (orElse first second) third = orElse first (orElse second third) := by
  rcases first with _ | _ | _ | _ <;> rcases second with _ | _ | _ | _ <;>
    rcases third with _ | _ | _ | _ <;> rfl

/-- The two stop at the same places, errors included. -/
theorem andAlso_negate (first rest : Except Failure Truth) :
    andAlso (first.map Truth.negate) (rest.map Truth.negate) =
      (orElse first rest).map Truth.negate := by
  rcases first with _ | _ | _ | _ <;> rcases rest with _ | _ | _ | _ <;> rfl

theorem orElse_negate (first rest : Except Failure Truth) :
    orElse (first.map Truth.negate) (rest.map Truth.negate) =
      (andAlso first rest).map Truth.negate := by
  rcases first with _ | _ | _ | _ <;> rcases rest with _ | _ | _ | _ <;> rfl

end Combinations

section Evaluation

variable (rules : Registry) (values : Lookup)

theorem evaluateAll_cons (child : Filter) (rest : List Filter) :
    evaluateAll rules values (child :: rest) =
      andAlso (evaluate rules values child) (evaluateAll rules values rest) := by
  rw [evaluateAll]
  rfl

theorem evaluateAny_cons (child : Filter) (rest : List Filter) :
    evaluateAny rules values (child :: rest) =
      orElse (evaluate rules values child) (evaluateAny rules values rest) := by
  rw [evaluateAny]
  rfl

theorem evaluateAll_append (first second : List Filter) :
    evaluateAll rules values (first ++ second) =
      andAlso (evaluateAll rules values first) (evaluateAll rules values second) := by
  induction first with
  | nil => rfl
  | cons child rest ih =>
    rw [List.cons_append, evaluateAll_cons, evaluateAll_cons, ih, andAlso_assoc]

theorem evaluateAny_append (first second : List Filter) :
    evaluateAny rules values (first ++ second) =
      orElse (evaluateAny rules values first) (evaluateAny rules values second) := by
  induction first with
  | nil => rfl
  | cons child rest ih =>
    rw [List.cons_append, evaluateAny_cons, evaluateAny_cons, ih, orElse_assoc]

theorem evaluateAll_negated (children : List Filter) :
    evaluateAll rules values (children.map not) =
      (evaluateAny rules values children).map Truth.negate := by
  induction children with
  | nil => rfl
  | cons child rest ih =>
    rw [List.map_cons, evaluateAll_cons, evaluateAny_cons, ih, evaluate, andAlso_negate]

theorem evaluateAny_negated (children : List Filter) :
    evaluateAny rules values (children.map not) =
      (evaluateAll rules values children).map Truth.negate := by
  induction children with
  | nil => rfl
  | cons child rest ih =>
    rw [List.map_cons, evaluateAny_cons, evaluateAll_cons, ih, evaluate, orElse_negate]

variable {rules values} {filter other : Filter}

theorem MovesNegation.evaluate_eq (moves : MovesNegation filter other) :
    evaluate rules values filter = evaluate rules values other := by
  cases moves with
  | double =>
    rw [evaluate, evaluate]
    cases evaluate rules values other with
    | error => rfl
    | ok value => exact congrArg Except.ok value.negate_negate
  | overAnd children => rw [evaluate, evaluate, evaluate, evaluateAny_negated]
  | overOr children => rw [evaluate, evaluate, evaluate, evaluateAll_negated]

theorem Splices.evaluate_eq (splices : Splices filter other) :
    evaluate rules values filter = evaluate rules values other := by
  cases splices with
  | and before inner after =>
    rw [evaluate, evaluate, evaluateAll_append, evaluateAll_cons, evaluate, List.append_assoc,
      evaluateAll_append, evaluateAll_append]
  | or before inner after =>
    rw [evaluate, evaluate, evaluateAny_append, evaluateAny_cons, evaluate, List.append_assoc,
      evaluateAny_append, evaluateAny_append]

theorem Within.evaluate_eq {rule : Filter → Filter → Prop}
    (sound : ∀ {filter other}, rule filter other →
      evaluate rules values filter = evaluate rules values other)
    (within : Within rule filter other) :
    evaluate rules values filter = evaluate rules values other := by
  induction within with
  | here applies => exact sound applies
  | inAnd before after _ ih =>
    rw [evaluate, evaluate, evaluateAll_append, evaluateAll_append, evaluateAll_cons,
      evaluateAll_cons, ih]
  | inOr before after _ ih =>
    rw [evaluate, evaluate, evaluateAny_append, evaluateAny_append, evaluateAny_cons,
      evaluateAny_cons, ih]
  | inNot _ ih => rw [evaluate, evaluate, ih]

theorem evaluate_eq_of_eqvGen {rule : Filter → Filter → Prop}
    (sound : ∀ {filter other}, rule filter other →
      evaluate rules values filter = evaluate rules values other)
    (related : EqvGen (Within rule) filter other) :
    evaluate rules values other = evaluate rules values filter := by
  induction related with
  | rel _ _ within => exact (within.evaluate_eq sound).symm
  | refl => rfl
  | symm _ _ _ ih => exact ih.symm
  | trans _ _ _ _ _ first second => exact second.trans first

end Evaluation

section NormalForm

theorem pushAll_eq_map (negated : Bool) (children : List Filter) :
    pushAll negated children = children.map (push negated) := by
  induction children with
  | nil => rfl
  | cons child rest ih => rw [pushAll, ih, List.map_cons]

theorem push_leaf {filter : Filter} (leaf : IsLeaf filter) (negated : Bool) :
    push negated filter = if negated then not filter else filter := by
  cases filter with
  | and | or | not => exact leaf.elim
  | _ => rfl

theorem push_and (negated : Bool) (children : List Filter) :
    push negated (and children) =
      if negated then or (children.map (push true)) else and (children.map (push false)) := by
  rw [push, pushAll_eq_map]
  cases negated <;> rfl

theorem push_or (negated : Bool) (children : List Filter) :
    push negated (or children) =
      if negated then and (children.map (push true)) else or (children.map (push false)) := by
  rw [push, pushAll_eq_map]
  cases negated <;> rfl

theorem push_not (negated : Bool) (child : Filter) :
    push negated (not child) = push (!negated) child := by
  rw [push]

theorem isNegationNormal_push (negated : Bool) (filter : Filter) :
    (push negated filter).IsNegationNormal := by
  induction filter using leafInduction generalizing negated with
  | leaf filter leaf =>
    rw [push_leaf leaf]
    cases negated with
    | false => exact .leaf leaf
    | true => exact .negated leaf
  | and children ih =>
    rw [push_and]
    cases negated with
    | false => exact .and (List.forall_mem_map.2 fun child mem => ih child mem false)
    | true => exact .or (List.forall_mem_map.2 fun child mem => ih child mem true)
  | or children ih =>
    rw [push_or]
    cases negated with
    | false => exact .or (List.forall_mem_map.2 fun child mem => ih child mem false)
    | true => exact .and (List.forall_mem_map.2 fun child mem => ih child mem true)
  | not child ih =>
    rw [push_not]
    exact ih _

theorem IsNegationNormal.push_eq {filter : Filter} (normal : filter.IsNegationNormal) :
    push false filter = filter := by
  induction normal with
  | leaf leaf => exact push_leaf leaf false
  | negated leaf => exact push_leaf leaf true
  | and _ ih => rw [push_and, if_neg Bool.false_ne_true, List.map_congr_left ih, List.map_id']
  | or _ ih => rw [push_or, if_neg Bool.false_ne_true, List.map_congr_left ih, List.map_id']

variable {rule : Filter → Filter → Prop} {filter other : Filter}

theorem reaches_children {combine : List Filter → Filter}
    (inside : ∀ before after {child child' : Filter}, Within rule child child' →
      Within rule (combine (before ++ child :: after)) (combine (before ++ child' :: after)))
    {change : Filter → Filter} {children : List Filter}
    (each : ∀ child ∈ children, ReflTransGen (Within rule) child (change child))
    (done : List Filter) :
    ReflTransGen (Within rule) (combine (done ++ children))
      (combine (done ++ children.map change)) := by
  induction children generalizing done with
  | nil => exact .refl
  | cons child rest ih =>
    obtain ⟨first, others⟩ := List.forall_mem_cons.1 each
    have here : ReflTransGen (Within rule) (combine (done ++ child :: rest))
        (combine (done ++ change child :: rest)) :=
      ReflTransGen.lift (fun one => combine (done ++ one :: rest))
        (fun _ _ within => inside done rest within) _ _ first
    have later := ih others (done ++ [change child])
    rw [List.append_assoc, List.append_assoc] at later
    exact here.trans later

/-- The moves lead to the normal form, of a filter and of its negation. -/
theorem reaches_push (filter : Filter) :
    ReflTransGen (Within MovesNegation) filter (push false filter) ∧
      ReflTransGen (Within MovesNegation) (not filter) (push true filter) := by
  induction filter using leafInduction with
  | leaf filter leaf =>
    rw [push_leaf leaf, push_leaf leaf]
    exact ⟨.refl, .refl⟩
  | and children ih =>
    rw [push_and, push_and]
    have negated : ∀ child ∈ children.map not,
        ReflTransGen (Within MovesNegation) child (push false child) :=
      List.forall_mem_map.2 fun child mem => (ih child mem).2
    have later := reaches_children .inOr negated []
    rw [List.map_map] at later
    exact ⟨reaches_children .inAnd (fun child mem => (ih child mem).1) [],
      .head (.here (.overAnd children)) later⟩
  | or children ih =>
    rw [push_or, push_or]
    have negated : ∀ child ∈ children.map not,
        ReflTransGen (Within MovesNegation) child (push false child) :=
      List.forall_mem_map.2 fun child mem => (ih child mem).2
    have later := reaches_children .inAnd negated []
    rw [List.map_map] at later
    exact ⟨reaches_children .inOr (fun child mem => (ih child mem).1) [],
      .head (.here (.overOr children)) later⟩
  | not child ih => exact ⟨ih.2, .head (.here (.double child)) ih.1⟩

theorem MovesNegation.push_eq (moves : MovesNegation filter other) (negated : Bool) :
    push negated filter = push negated other := by
  cases moves with
  | double => rw [push_not, push_not, Bool.not_not]
  | overAnd children =>
    rw [push_not, push_and, push_or, List.map_map, List.map_map]
    cases negated <;> rfl
  | overOr children =>
    rw [push_not, push_or, push_and, List.map_map, List.map_map]
    cases negated <;> rfl

theorem push_eq_of_within (within : Within MovesNegation filter other) (negated : Bool) :
    push negated filter = push negated other := by
  induction within generalizing negated with
  | here moves => exact moves.push_eq negated
  | inAnd before after _ ih => simp only [push_and, List.map_append, List.map_cons, ih]
  | inOr before after _ ih => simp only [push_or, List.map_append, List.map_cons, ih]
  | inNot _ ih => exact ih _

theorem eq_negationNormal (moved : ReflTransGen (Within MovesNegation) filter other)
    (normal : other.IsNegationNormal) : other = filter.negationNormal := by
  have same : push false filter = push false other := by
    clear normal
    induction moved with
    | refl => rfl
    | tail _ last ih => exact ih.trans (push_eq_of_within last false)
  rw [negationNormal, same, normal.push_eq]

end NormalForm

/-- Moving negations inwards leads every filter to one normal form. Neither that nor any
splicing, forwards or backwards, changes what evaluation gives, be it a truth value or an
error. -/
theorem evaluate_negationNormal (rules : Registry) (values : Lookup) (filter : Filter) :
    filter.negationNormal.IsNegationNormal ∧
      ReflTransGen (Within MovesNegation) filter filter.negationNormal ∧
      (∀ other, ReflTransGen (Within MovesNegation) filter other → other.IsNegationNormal →
        other = filter.negationNormal) ∧
      evaluate rules values filter.negationNormal = evaluate rules values filter ∧
      ∀ other, EqvGen (Within Rewrites) filter other →
        evaluate rules values other = evaluate rules values filter := by
  have moved : ReflTransGen (Within MovesNegation) filter filter.negationNormal :=
    (reaches_push filter).1
  refine ⟨isNegationNormal_push false filter, moved, fun _ => eq_negationNormal, ?_, ?_⟩
  · exact evaluate_eq_of_eqvGen MovesNegation.evaluate_eq
      (EqvGen.reflTransGen_le_eqvGen _ _ _ moved)
  · exact fun _ => evaluate_eq_of_eqvGen
      (Or.elim · MovesNegation.evaluate_eq Splices.evaluate_eq)

/-- A disjunction comes out of two negations and is spliced; the first choice in it that is
not understood stays the one that is complained of. -/
theorem evaluate_negationNormal_unknown :
    let filter : Filter :=
      not (and [not (or [present "cn", unknown "0xaa"]), unknown "0xbb"])
    let normal : Filter := or [or [present "cn", unknown "0xaa"], not (unknown "0xbb")]
    let spliced : Filter := or [present "cn", unknown "0xaa", not (unknown "0xbb")]
    ReflTransGen (Within MovesNegation) filter normal ∧ normal.IsNegationNormal ∧
      normal = filter.negationNormal ∧ EqvGen (Within Rewrites) filter spliced ∧
      evaluate .standard (fun _ => none) spliced =
        .error (.operationsError "Unknown filter type: 0xaa") := by
  intro filter normal spliced
  have first : Within MovesNegation filter
      (or [not (not (or [present "cn", unknown "0xaa"])), not (unknown "0xbb")]) :=
    .here (.overAnd _)
  have second : Within MovesNegation
      (or [not (not (or [present "cn", unknown "0xaa"])), not (unknown "0xbb")]) normal :=
    .inOr [] _ (.here (.double _))
  have moved : ReflTransGen (Within MovesNegation) filter normal := .tail (.single first) second
  have isNormal : normal.IsNegationNormal := by
    simp only [normal]
    refine .or ?_
    simp only [List.forall_mem_cons]
    refine ⟨.or ?_, .negated trivial, List.forall_mem_nil _⟩
    simp only [List.forall_mem_cons]
    exact ⟨.leaf trivial, .leaf trivial, List.forall_mem_nil _⟩
  have related : EqvGen (Within Rewrites) filter spliced := by
    refine .trans _ normal _ ?_ (.rel _ _ (.here (.inr (.or [] _ _))))
    exact .trans _ _ _ (.rel _ _ (.here (.inl (.overAnd _))))
      (.rel _ _ (.inOr [] _ (.here (.inl (.double _)))))
  obtain ⟨-, -, unique, -, same⟩ := evaluate_negationNormal .standard (fun _ => none) filter
  refine ⟨moved, isNormal, unique normal moved isNormal, related, ?_⟩
  rw [same spliced related]
  rfl

end LdapService.Filter

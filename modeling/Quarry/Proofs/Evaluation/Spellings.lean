-- SUMMARY: Conditions that can be written in two ways say the same in both.
import Quarry.Proofs.Evaluation.Faults
import Quarry.Proofs.Evaluation.Trichotomy
import Quarry.Proofs.PredicateTree.Combining

/-!
# Two ways of writing a condition

Under a selector, or on a list, `CONTAINING` does what some operator of its own does, and both are validated
alike.

Membership in a list of candidates can be written as a disjunction of equalities. The one compares the stored
value with every candidate, the other stops at the first that is equal. They agree because candidates compare
with one another: a stored value compares with all of them or with none.
-/

namespace Quarry

open Comparison

/-! ## Dedicated operators -/

/-- The operator that does what `CONTAINING` does under a selector with a kind of stored values. -/
def dedicatedOperator? : Option Selector → Kind → Option Operator
  | some .key, _ => some .mapKeysContain
  | some .keyValue, _ => some .mapValEqByKey
  | some .value, .map => some .mapValuesContain
  | some .value, .list | none, .list => some .listValContaining
  | _, _ => none

namespace Condition

/-- The condition with `CONTAINING` and the given selector. -/
def containing (c : Condition) (selector : Option Selector) : Condition :=
  { c with operator := .containing, selector := selector }

/-- The condition with an operator that takes no selector. -/
def dedicated (c : Condition) (op : Operator) : Condition :=
  { c with operator := op, selector := none }

variable {selector : Option Selector} {k : Kind} {op : Operator}

/-- Validation finds the same fault in both spellings, or none. -/
theorem fault?_dedicated (c : Condition) (h : dedicatedOperator? selector k = some op) :
    (c.containing selector).fault? = (c.dedicated op).fault? := by
  unfold dedicatedOperator? at h
  split at h
  all_goals
    first
    | contradiction
    | obtain rfl := Option.some.inj h
      cases c.value1 <;> rfl

end Condition

namespace Evaluator

variable (ev : Evaluator) {p q : Predicate} {r : Record} {stored : Value}

/-- On the stored values that the dedicated operator is for, the tests are the same. -/
theorem test_dedicated {c : Condition} {selector : Option Selector} {op : Operator}
    (hp : (c.containing selector).build = .ok p) (hq : (c.dedicated op).build = .ok q)
    (h : dedicatedOperator? selector stored.kind = some op) : ev.test p stored = ev.test q stored := by
  obtain ⟨-, hop, hvalue1, hvalue2, hcase, hselector⟩ :=
    Condition.mk.inj (Condition.build_eq_ok_iff.1 hp)
  obtain ⟨-, hop', hvalue1', hvalue2', hcase', -⟩ := Condition.mk.inj (Condition.build_eq_ok_iff.1 hq)
  have hfirst : q.value1 = p.value1 := Option.some.inj (hvalue1'.trans hvalue1.symm)
  have hsecond : second q = second p := by rw [second, second, hvalue2', hvalue2]
  have hfold : q.ignoreCase = p.ignoreCase := hcase'.trans hcase.symm
  cases selector with
  | none =>
    cases stored with
    | list items =>
      obtain rfl := Option.some.inj h
      simp only [test, hop, hop', containing, hselector, hfirst, hfold]
      rfl
    | _ => contradiction
  | some selector =>
    cases selector with
    | key =>
      obtain rfl := Option.some.inj h
      simp only [test, hop, hop', containing, hselector, hfirst, hfold]
      cases stored <;> rfl
    | value =>
      cases stored with
      | list _ | map _ =>
        obtain rfl := Option.some.inj h
        simp only [test, hop, hop', containing, hselector, hfirst, hfold]
        rfl
      | _ => contradiction
    | keyValue =>
      obtain rfl := Option.some.inj h
      -- the one looks for the second operand only after it has found a map
      obtain ⟨expected, -, hexpected⟩ := second_eq_ok (arity_of_operator (p := q) (by rw [hop']; rfl))
      rw [hexpected] at hsecond
      simp only [test, hop, hop', containing, hselector, hfirst, hfold, hexpected, ← hsecond]
      cases stored <;> rfl

/-- A record satisfies both spellings or neither, or both report a mismatch. -/
theorem evaluate_dedicated_agrees {c : Condition} {selector : Option Selector} {op : Operator}
    (hp : (c.containing selector).build = .ok p) (hq : (c.dedicated op).build = .ok q)
    (h : ∀ stored, r.resolve? c.field = some stored → dedicatedOperator? selector stored.kind = some op) :
    Agree EvaluationError.IsMismatch (ev.evaluate r (.leaf p)) (ev.evaluate r (.leaf q)) := by
  obtain ⟨hfield, hop, -⟩ := Condition.mk.inj (Condition.build_eq_ok_iff.1 hp)
  obtain ⟨hfield', -⟩ := Condition.mk.inj (Condition.build_eq_ok_iff.1 hq)
  refine agree_of_tests ev (hfield'.trans hfield.symm) fun stored hstored => ?_
  rw [← test_dedicated ev hp hq (h stored (hfield ▸ hstored))]
  refine alike_self fun fault hfault => isMismatch_of_test ?_ hfault
  rw [hop]
  decide

/-! ## Candidates -/

section

variable {field : String} {ignoreCase : Bool} {candidates : List Value} {qs : List Predicate}

/-- The predicates that a field equals one of the candidates, built one by one. -/
abbrev equalities (field : String) (ignoreCase : Bool) (candidates : List Value) :
    Except PredicateError (List Predicate) :=
  candidates.mapM fun c => (Condition.comparison field c ignoreCase .eq).build

/-- Each candidate of a well-formed list can be written as an equality. -/
theorem exists_equalities (hop : p.operator = .isIn) (hvalue : p.value1 = .list candidates) :
    ∃ qs, equalities p.field p.ignoreCase candidates = .ok qs := by
  have hp := p.meets
  apply exists_mapM_eq_ok
  intro c hc
  have hscalar := (discerns_candidate hop hvalue hc).1
  refine (Condition.exists_build_relational_iff (by rfl) hscalar
    (domainFault?_eq_of_isScalar hscalar)).2 ⟨hp.field, fun hfield => ?_, fun hcase => ?_⟩
  · have hcomparison := (metadataFault?_eq_none_iff.1 (hp.metadata hfield)).1
    simp only [Predicate.condition, hop] at hcomparison
    contradiction
  · have htext := hp.ignoreCase hcase
    simp only [Predicate.condition, hop, hvalue, comparesText_isIn, Bool.and_eq_true,
      List.all_eq_true] at htext
    exact eq_of_beq (htext.2 c hc)

/-- An equality that is built has the outcome of comparing the stored value with its candidate. -/
theorem evaluate_equality {c : Value}
    (hq : (Condition.comparison field c ignoreCase .eq).build = .ok q)
    (hr : r.resolve? field = some stored) :
    ev.evaluate r (.leaf q) =
      (equal ignoreCase stored c).mapError fun fault => ⟨field, .eq, fault⟩ := by
  obtain ⟨rfl, hop, rfl, -, rfl, -⟩ := Condition.parts_of_build_comparison hq
  rw [accepts_of_resolve ev hr, test, hop]

/-- If each equality is decided, the disjunction says whether one of them holds. -/
theorem evaluate_equalities (holds : Value → Bool)
    (hqs : equalities field ignoreCase candidates = .ok qs)
    (h : ∀ c ∈ candidates, ∀ q, (Condition.comparison field c ignoreCase .eq).build = .ok q →
      ev.evaluate r (.leaf q) = .ok (holds c)) :
    ev.evaluate r (.branch .or (qs.map .leaf)) = .ok (candidates.any holds) := by
  induction candidates generalizing qs with
  | nil =>
    obtain rfl := Except.ok.inj hqs
    exact evaluate_branch_nil ev r .or
  | cons c candidates ih =>
    obtain ⟨q, qs', hq, hqs', rfl⟩ := mapM_cons_eq_ok_iff.1 hqs
    obtain ⟨hc, hcandidates⟩ := List.forall_mem_cons.1 h
    rw [List.map_cons, evaluate_branch_cons, hc q hq, ih hqs' hcandidates, List.any_cons]
    cases holds c <;> rfl

/-- If the stored value compares with all candidates, the disjunction says whether it equals one. -/
theorem evaluate_equalities_decided (hqs : equalities field ignoreCase candidates = .ok qs)
    (hr : r.resolve? field = some stored) (h : ∀ c ∈ candidates, ∃ b, equal ignoreCase stored c = .ok b) :
    ev.evaluate r (.branch .or (qs.map .leaf)) =
      .ok (candidates.any fun c => passes (equal ignoreCase stored c)) := by
  refine evaluate_equalities ev _ hqs fun c hc q hq => ?_
  obtain ⟨b, hb⟩ := h c hc
  rw [evaluate_equality ev hq hr, hb]
  cases b <;> rfl

/-- A record without the field equals no candidate. -/
theorem evaluate_equalities_missing (hqs : equalities field ignoreCase candidates = .ok qs)
    (hr : r.resolve? field = none) : ev.evaluate r (.branch .or (qs.map .leaf)) = .ok false := by
  have hnone : candidates.any (fun _ => false) = false := List.any_eq_false.2 fun _ _ => Bool.false_ne_true
  rw [← hnone]
  exact evaluate_equalities ev _ hqs fun c _ q hq => evaluate_comparison_missing ev hq hr

/-- Membership among candidates and the disjunction of equalities agree: the candidates compare with one
    another, so the stored value compares with all of them or with none. -/
theorem evaluate_isIn_agrees (hop : p.operator = .isIn) (hvalue : p.value1 = .list candidates)
    (hne : candidates ≠ []) (hqs : equalities p.field p.ignoreCase candidates = .ok qs) (r : Record) :
    Agree EvaluationError.IsMismatch (ev.evaluate r (.leaf p))
      (ev.evaluate r (.branch .or (qs.map .leaf))) := by
  obtain ⟨_, hvalue', hcandidates⟩ := Predicate.exists_list_of_isIn hop
  obtain rfl := Value.list.inj (hvalue'.symm.trans hvalue)
  have hfamily := (candidatesFault?_eq_none_iff.1 hcandidates).2
  cases hr : r.resolve? p.field with
  | none =>
    rw [evaluate_of_missing ev hr, evaluate_equalities_missing ev hqs hr]
    exact .decided false
  | some stored =>
    obtain ⟨first, rest, rfl⟩ := List.exists_cons_of_ne_nil hne
    cases hk : stored.kind.comparable first.kind with
    | false =>
      obtain ⟨e, he, herror⟩ := evaluate_mismatch ev hr
        (test_isIn_mismatch ev hop hvalue List.mem_cons_self hk)
      obtain ⟨q, qs', hq, -, rfl⟩ := mapM_cons_eq_ok_iff.1 hqs
      obtain ⟨e', he', herror'⟩ := evaluate_comparison_mismatch ev hq rfl hr hk
      rw [herror, List.map_cons, evaluate_branch_cons, herror']
      exact .refused he he'
    | true =>
      have hdecided : ∀ c ∈ first :: rest, ∃ b, equal p.ignoreCase stored c = .ok b := by
        intro c hc
        apply (discerns_candidate hop hvalue hc).2.decides
        rw [Kind.comparable_iff] at hk ⊢
        exact hk.trans (hfamily first List.mem_cons_self c hc)
      rw [accepts_of_resolve ev hr, test_isIn ev hop hvalue, any_of_decided hdecided,
        evaluate_equalities_decided ev hqs hr hdecided]
      exact .decided _

end

/-! ## Agreement -/

/-- Membership in a list of candidates, of which there is one at least, agrees on every record with the
    disjunction of the equalities with them, all of which are well formed. `CONTAINING` and the operator that
    is dedicated to its selector have the same faults or none, and agree on every record whose field, if it
    is there, has a kind that the operator is dedicated to. -/
theorem spellings_agree (ev : Evaluator) :
    (∀ (p : Predicate) (candidates : List Value), p.operator = .isIn → p.value1 = .list candidates →
      candidates ≠ [] →
      ∃ qs t, equalities p.field p.ignoreCase candidates = .ok qs ∧
        PredicateTree.or (qs.map .leaf) = .ok t ∧
        ∀ r, Agree EvaluationError.IsMismatch (ev.evaluate r (.leaf p)) (ev.evaluate r t)) ∧
    ∀ (c : Condition) (selector : Option Selector) (k : Kind) (op : Operator),
      dedicatedOperator? selector k = some op →
      (c.containing selector).fault? = (c.dedicated op).fault? ∧
      ∀ p q, (c.containing selector).build = .ok p → (c.dedicated op).build = .ok q →
        ∀ r, (∀ stored, r.resolve? c.field = some stored →
            dedicatedOperator? selector stored.kind = some op) →
          Agree EvaluationError.IsMismatch (ev.evaluate r (.leaf p)) (ev.evaluate r (.leaf q)) := by
  constructor
  · intro p candidates hop hvalue hne
    obtain ⟨qs, hqs⟩ := exists_equalities hop hvalue
    have hleaves : qs ≠ [] := by
      rintro rfl
      obtain ⟨first, rest, rfl⟩ := List.exists_cons_of_ne_nil hne
      obtain ⟨_, _, -, -, h⟩ := mapM_cons_eq_ok_iff.1 hqs
      contradiction
    cases hjoin : PredicateTree.or (qs.map .leaf) with
    | error e =>
      obtain ⟨q, _, rfl⟩ := List.exists_cons_of_ne_nil hleaves
      have hleaf := PredicateTree.join_eq_error_iff.1 ⟨e, hjoin⟩ (.leaf q) List.mem_cons_self
      contradiction
    | ok t =>
      refine ⟨qs, t, hqs, hjoin, fun r => ?_⟩
      rw [PredicateTree.evaluate_join hjoin]
      exact evaluate_isIn_agrees ev hop hvalue hne hqs r
  · intro c selector k op h
    exact ⟨c.fault?_dedicated h, fun p q hp hq r hr => evaluate_dedicated_agrees ev hp hq hr⟩

/-- A predicate with candidates of two kinds, which compare with one another. -/
def ratedAmong : Predicate :=
  ⟨"rating", .isIn, .list [.int 3, .float (.ofInt64 5)], none, false, none, rfl⟩

/-- A limit under a key. -/
def limitOfCpu : Condition :=
  ⟨"limits", .containing, some (.string "cpu"), some (.string "High"), true, none⟩

/-- A record with limits. -/
def limitedRecord : Record :=
  ⟨"k", .ofList [("limits", .map [(.string "cpu", .string "high")])], 1, none⟩

theorem spellings_agree_limited :
    (∃ qs t, equalities "rating" false [.int 3, .float (.ofInt64 5)] = .ok qs ∧
      PredicateTree.or (qs.map .leaf) = .ok t ∧
      ∀ r, Agree EvaluationError.IsMismatch (containment.evaluate r (.leaf ratedAmong))
        (containment.evaluate r t)) ∧
    (∃ p q, (limitOfCpu.containing (some .keyValue)).build = .ok p ∧
      (limitOfCpu.dedicated .mapValEqByKey).build = .ok q ∧
      containment.evaluate limitedRecord (.leaf p) = .ok true ∧
      Agree EvaluationError.IsMismatch (containment.evaluate limitedRecord (.leaf p))
        (containment.evaluate limitedRecord (.leaf q))) ∧
    (limitOfCpu.containing (some .key)).fault? = (limitOfCpu.dedicated .mapKeysContain).fault? ∧
    (limitOfCpu.containing (some .key)).fault? = some .oneOperandExpected := by
  obtain ⟨hcandidates, hdedicated⟩ := spellings_agree containment
  refine ⟨hcandidates ratedAmong _ rfl rfl (List.cons_ne_nil _ _), ⟨_, _, rfl, rfl, ?_, ?_⟩, ?_, rfl⟩
  · rfl
  · exact (hdedicated limitOfCpu (some .keyValue) .map .mapValEqByKey rfl).2 _ _ rfl rfl limitedRecord
      fun _ _ => rfl
  · exact (hdedicated limitOfCpu (some .key) .map .mapKeysContain rfl).1

end Evaluator

end Quarry

-- SUMMARY: How the evaluation of a predicate follows from a test, and that of a conjunction from its children.
import Quarry.Evaluation.Basic
import Quarry.Proofs.Outcome

/-!
# Evaluating predicates and conjunctions

A predicate on a field is a test of the value that the record has there.

A conjunction goes on past a child only if the child is satisfied. A satisfied child can therefore be
left out wherever it stands, without a change to the outcome or to the error, and a conjunction is
satisfied only if all its children are.
-/

namespace Quarry

/-- A field that is not kept beside the bins is a path into them. -/
theorem Record.resolve?_of_not_metadata {field : String} (h : isMetadataField field = false) (r : Record) :
    r.resolve? field = r.atPath? field := by
  unfold isMetadataField at h
  rw [Bool.or_eq_false_iff, beq_eq_false_iff_ne, beq_eq_false_iff_ne] at h
  unfold resolve?
  rw [if_neg h.1, if_neg h.2]

namespace Evaluator

variable {ev : Evaluator} {r : Record} {t : PredicateTree} {ts us : List PredicateTree}

/-! ## Equations -/

theorem evaluate_leaf (ev : Evaluator) (r : Record) (p : Predicate) :
    ev.evaluate r (.leaf p) = ev.accepts r p := by
  rw [evaluate]

theorem evaluate_and (ev : Evaluator) (r : Record) (ts : List PredicateTree) :
    ev.evaluate r (.branch .and ts) = ev.evaluateAll r ts := by
  rw [evaluate]

@[simp] theorem evaluateAll_nil (ev : Evaluator) (r : Record) : ev.evaluateAll r [] = .ok true := by
  rw [evaluateAll]

theorem evaluateAll_cons (ev : Evaluator) (r : Record) (t : PredicateTree)
    (ts : List PredicateTree) :
    ev.evaluateAll r (t :: ts) = match ev.evaluate r t with
      | .ok true => ev.evaluateAll r ts
      | .ok false => .ok false
      | .error e => .error e := by
  rw [evaluateAll]
  cases ev.evaluate r t with
  | error e => rfl
  | ok b => cases b <;> rfl

@[simp] theorem evaluateAll_singleton (ev : Evaluator) (r : Record) (t : PredicateTree) :
    ev.evaluateAll r [t] = ev.evaluate r t := by
  rw [evaluateAll_cons, evaluateAll_nil]
  cases ev.evaluate r t with
  | error e => rfl
  | ok b => cases b <;> rfl

/-! ## Predicates -/

theorem accepts_of_resolve (ev : Evaluator) {p : Predicate} {v : Value}
    (hv : r.resolve? p.field = some v) :
    ev.evaluate r (.leaf p) =
      (ev.test p v).mapError fun fault => ⟨p.field, p.operator, fault⟩ := by
  rw [evaluate_leaf, accepts, hv]

/-- A record without the field is not accepted. -/
theorem evaluate_of_missing (ev : Evaluator) {p : Predicate} (h : r.resolve? p.field = none) :
    ev.evaluate r (.leaf p) = .ok false := by
  rw [evaluate_leaf, accepts, h]

/-- A predicate accepts a record if the record has the field and its value passes the test. -/
theorem evaluate_leaf_eq_ok_true_iff (ev : Evaluator) {p : Predicate} :
    ev.evaluate r (.leaf p) = .ok true ↔
      ∃ v, r.resolve? p.field = some v ∧ ev.test p v = .ok true := by
  cases hv : r.resolve? p.field with
  | none =>
    rw [evaluate_leaf, accepts, hv]
    simp
  | some v =>
    rw [accepts_of_resolve ev hv, mapError_eq_ok_iff]
    simp

/-- A predicate fails on a record if the record has the field and the test of its value fails. -/
theorem evaluate_leaf_eq_error_iff {p : Predicate} {e : EvaluationError} :
    ev.evaluate r (.leaf p) = .error e ↔
      ∃ v fault, r.resolve? p.field = some v ∧ ev.test p v = .error fault ∧
        e = ⟨p.field, p.operator, fault⟩ := by
  cases hv : r.resolve? p.field with
  | none =>
    rw [evaluate_leaf, accepts, hv]
    simp
  | some v =>
    rw [accepts_of_resolve ev hv, mapError_eq_error_iff]
    simp [eq_comm]

/-! ## Satisfied children -/

theorem evaluateAll_cons_of_satisfied (h : ev.evaluate r t = .ok true) :
    ev.evaluateAll r (t :: ts) = ev.evaluateAll r ts := by
  rw [evaluateAll_cons, h]

/-- A satisfied child can be left out of a conjunction. -/
theorem evaluateAll_append_cons (h : ev.evaluate r t = .ok true) :
    ev.evaluateAll r (us ++ t :: ts) = ev.evaluateAll r (us ++ ts) := by
  induction us with
  | nil => exact evaluateAll_cons_of_satisfied h
  | cons u us ih =>
    rw [List.cons_append, List.cons_append, evaluateAll_cons, evaluateAll_cons, ih]

/-- A conjunction is satisfied if all its children are, and only then. -/
theorem evaluateAll_eq_ok_true_iff :
    ev.evaluateAll r ts = .ok true ↔ ∀ t ∈ ts, ev.evaluate r t = .ok true := by
  induction ts with
  | nil => simp [evaluateAll_nil]
  | cons t ts ih =>
    rw [evaluateAll_cons, List.forall_mem_cons, ← ih]
    cases ev.evaluate r t with
    | error e => simp
    | ok b => cases b <;> simp

end Evaluator

end Quarry

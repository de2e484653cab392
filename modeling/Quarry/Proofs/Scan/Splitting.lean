-- SUMMARY: A plan asks for the same records as the tree it was made from.
import Quarry.Proofs.Evaluation.Branches
import Quarry.Scan.Plan

/-!
# Splitting keeps the meaning

The predicate that a plan pushes is the tree itself or a child of the conjunction at its root. For a
record that satisfies the pushed predicate the residual evaluates as the whole tree does, errors
included, because a satisfied child can be left out of a conjunction. A record that does not satisfy
the pushed predicate does not satisfy the tree.
-/

namespace Quarry

/-- The predicate is the whole tree, or a child of the conjunction that the tree is. -/
inductive Predicate.IsConjunct (p : Predicate) : PredicateTree → Prop
  | itself : IsConjunct p (.leaf p)
  | child {ts : List PredicateTree} (h : .leaf p ∈ ts) : IsConjunct p (.branch .and ts)

/-- A tree is satisfied only if each of its conjuncts is. -/
theorem Predicate.IsConjunct.accepts {p : Predicate} {t : PredicateTree} (h : p.IsConjunct t)
    {ev : Evaluator} {r : Record} (ht : ev.evaluate r t = .ok true) :
    ev.evaluate r (.leaf p) = .ok true := by
  cases h with
  | itself => exact ht
  | child h =>
    rw [Evaluator.evaluate_and] at ht
    exact Evaluator.evaluateAll_eq_ok_true_iff.1 ht _ h

namespace Plan

variable {catalog : Catalog} {collection : String}

/-! ## The pushed child -/

/-- The child that is taken is the first predicate that can be pushed, and the others are the
    children before and after it. -/
theorem takePushable?_eq_some {ts others : List PredicateTree} {d : Pushdown}
    (h : takePushable? catalog collection ts = some (d, others)) :
    ∃ before p after, ts = before ++ .leaf p :: after ∧ others = before ++ after ∧
      pushdown? catalog collection p = some d ∧
      ∀ t ∈ before, t.leaf?.bind (pushdown? catalog collection) = none := by
  induction ts generalizing others with
  | nil => contradiction
  | cons t ts ih =>
    unfold takePushable? at h
    split at h
    · next d' hd =>
      obtain ⟨rfl, rfl⟩ := Prod.mk.inj (Option.some.inj h)
      obtain ⟨p, hleaf, hp⟩ := Option.bind_eq_some_iff.1 hd
      cases t with
      | leaf q =>
        obtain rfl := Option.some.inj hleaf
        exact ⟨[], q, ts, rfl, rfl, hp, by simp⟩
      | branch c us => contradiction
    · next hnone =>
      obtain ⟨⟨d', rest⟩, hrest, heq⟩ := Option.map_eq_some_iff.1 h
      obtain ⟨rfl, rfl⟩ := Prod.mk.inj heq
      obtain ⟨before, p, after, rfl, rfl, hp, hbefore⟩ := ih hrest
      exact ⟨t :: before, p, after, rfl, rfl, hp, List.forall_mem_cons.2 ⟨hnone, hbefore⟩⟩

/-! ## The residual -/

variable {ev : Evaluator} {r : Record}

theorem accepts_some (q : Option IndexQuery) (t : PredicateTree) :
    Plan.accepts ⟨q, some t⟩ ev r = ev.evaluate r t := rfl

theorem accepts_none (q : Option IndexQuery) : Plan.accepts ⟨q, none⟩ ev r = .ok true := rfl

/-- What is left of a conjunction evaluates as a conjunction. -/
theorem accepts_conjunction (q : Option IndexQuery) (ts : List PredicateTree) :
    Plan.accepts ⟨q, conjunction ts⟩ ev r = ev.evaluateAll r ts := by
  cases ts with
  | nil =>
    rw [Evaluator.evaluateAll_nil]
    exact accepts_none q
  | cons t us =>
    cases us with
    | nil =>
      rw [Evaluator.evaluateAll_singleton]
      exact accepts_some q t
    | cons u us =>
      rw [← Evaluator.evaluate_and]
      exact accepts_some q _

/-! ## Plans -/

/-- The plan pushes the query of a conjunct, and what it leaves evaluates as the whole tree wherever
    the conjunct is satisfied. -/
structure Splits (catalog : Catalog) (collection : String) (t : PredicateTree) (plan : Plan)
    (p : Predicate) (d : Pushdown) : Prop where
  conjunct : p.IsConjunct t
  pushdown : pushdown? catalog collection p = some d
  pushed : plan.pushed = some d.query
  residual : ∀ ev r, ev.evaluate r (.leaf p) = .ok true → plan.accepts ev r = ev.evaluate r t
  /-- A query that may find too much leaves the whole tree. -/
  whole : d.exact = false → plan.residual = some t

/-- A plan is the tree itself as residual, or it splits the tree. -/
theorem ofTree_cases (catalog : Catalog) (collection : String) (t : PredicateTree) :
    ofTree catalog collection t = ⟨none, some t⟩ ∨
      ∃ p d, Splits catalog collection t (ofTree catalog collection t) p d := by
  cases t with
  | leaf p =>
    cases hd : pushdown? catalog collection p with
    | none =>
      left
      simp only [ofTree, hd]
    | some d =>
      right
      have hplan : ofTree catalog collection (.leaf p) =
          ⟨some d.query, if d.exact then none else some (.leaf p)⟩ := by
        simp only [ofTree, hd]
      rw [hplan]
      refine ⟨p, d, .itself, hd, rfl, fun ev r hp => ?_, fun hexact => by rw [hexact]; rfl⟩
      cases d.exact with
      | true => exact hp.symm
      | false => rfl
  | branch c ts =>
    cases c with
    | or => exact .inl rfl
    | and =>
      cases htake : takePushable? catalog collection ts with
      | none =>
        left
        simp only [ofTree, htake]
      | some taken =>
        right
        obtain ⟨d, others⟩ := taken
        have hplan : ofTree catalog collection (.branch .and ts) =
            ⟨some d.query, if d.exact then conjunction others else some (.branch .and ts)⟩ := by
          simp only [ofTree, htake]
        rw [hplan]
        obtain ⟨before, p, after, rfl, rfl, hp, _⟩ := takePushable?_eq_some htake
        refine ⟨p, d, .child (by simp), hp, rfl, fun ev r hsatisfied => ?_,
          fun hexact => by rw [hexact]; rfl⟩
        cases d.exact with
        | false => rfl
        | true =>
          rw [Evaluator.evaluate_and, Evaluator.evaluateAll_append_cons hsatisfied]
          exact accepts_conjunction _ _

/-- A plan that pushes nothing has the whole tree as residual. One that pushes a query made from a
    predicate gives the outcome of the whole tree, errors included, on every record that satisfies
    the predicate, and a record that does not satisfy it does not satisfy the tree. -/
theorem ofTree_preserves_meaning (catalog : Catalog) (collection : String) (t : PredicateTree) :
    let plan := ofTree catalog collection t
    match plan.pushed with
    | none => plan.residual = some t
    | some q => ∃ p d, p.IsConjunct t ∧ pushdown? catalog collection p = some d ∧ d.query = q ∧
        ∀ (ev : Evaluator) (r : Record),
          (ev.evaluate r (.leaf p) = .ok true → plan.accepts ev r = ev.evaluate r t) ∧
          (ev.evaluate r (.leaf p) ≠ .ok true → ev.evaluate r t ≠ .ok true) := by
  intro plan
  rcases ofTree_cases catalog collection t with hscan | ⟨p, d, hsplits⟩
  · have hplan : plan = ⟨none, some t⟩ := hscan
    rw [hplan]
  · have hpushed : plan.pushed = some d.query := hsplits.pushed
    rw [hpushed]
    refine ⟨p, d, hsplits.conjunct, hsplits.pushdown, rfl, fun ev r => ⟨hsplits.residual ev r, ?_⟩⟩
    exact mt hsplits.conjunct.accepts

end Plan

end Quarry

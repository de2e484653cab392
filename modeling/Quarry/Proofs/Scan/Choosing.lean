-- SUMMARY: Which predicate a plan pushes, and what it leaves.
import Quarry.Proofs.Scan.Pushing
import Quarry.Proofs.Scan.Splitting

/-!
# Choosing what to push

Whether a predicate can be pushed is a matter of its parts and of the index that the catalog reports for
its field. A plan pushes the first conjunct of the tree that can be pushed. It passes by those that have no
index or one of another type, and ranges up to the largest integer. What is left are the conjuncts beside
the pushed one, or the whole tree if a range was pushed.
-/

namespace Quarry

/-! ## Eligible predicates -/

namespace Predicate

/-- The operator and the operands of a predicate fit an index of the type. The operator is then one that can
    be pushed. -/
inductive Suits (p : Predicate) : IndexType → Prop
  | comparison {n : Int64} (operator : p.operator.isComparison = true) (operand : p.value1 = .int n) :
    Suits p .numeric
  | between {lo hi : Int64} (operator : p.operator = .between) (lower : p.value1 = .int lo)
      (upper : p.value2 = some (.int hi)) (room : hi < Int64.maxValue) : Suits p .numeric
  | text {t : String} (operator : p.operator = .eq) (operand : p.value1 = .string t) : Suits p .string
  | region (operator : p.operator = .geoWithin) : Suits p .geo2dSphere

/-- An index may stand for the predicate: letter case counts, and the field is not a metadata field. -/
structure Plain (p : Predicate) : Prop where
  caseSensitive : p.ignoreCase = false
  ordinary : p.isMetadata = false

/-- The catalog reports an index on the field, of a type that the predicate suits. -/
structure Eligible (catalog : Catalog) (collection : String) (p : Predicate) : Prop extends Plain p where
  suits : ∃ d, catalog collection p.field = some d ∧ p.Suits d.type

/-- The query has the parts of the predicate, with the next integer instead of the upper bound of a
    range. -/
inductive Carries (p : Predicate) : IndexQuery → Prop
  | range {lo hi next : Int64} (operator : p.operator = .between) (lower : p.value1 = .int lo)
      (upper : p.value2 = some (.int hi)) (successor : next.toInt = hi.toInt + 1) :
    Carries p ⟨p.field, p.operator, p.value1, some (.int next)⟩
  | exact (operator : p.operator ≠ .between) : Carries p ⟨p.field, p.operator, p.value1, p.value2⟩

variable {p : Predicate} {type : IndexType} {d : Pushdown}

/-- Selectors are for an operator that cannot be pushed. -/
theorem selector_of_isPushable (h : p.operator.isPushable = true) : p.selector = none := by
  refine selector_eq_none fun hop => ?_
  rw [hop] at h
  contradiction

theorem ne_between_of_isComparison (h : p.operator.isComparison = true) : p.operator ≠ .between := by
  intro hop
  rw [hop] at h
  contradiction

theorem ne_maxValue_iff {hi : Int64} : hi ≠ Int64.maxValue ↔ hi < Int64.maxValue := by
  constructor
  · intro hne
    rw [Int64.lt_iff_toInt_lt]
    exact Int.lt_iff_le_and_ne.2 ⟨hi.toInt_le, fun heq => hne (Int64.toInt_inj.1 heq)⟩
  · rintro hlt rfl
    exact absurd hlt (by decide)

/-- A predicate suits an index just if it becomes a query to it. -/
theorem suits_iff : p.Suits type ↔ ∃ d, p.PushesTo type d := by
  constructor
  · intro h
    cases h with
    | comparison operator operand => exact ⟨_, .comparison operator operand⟩
    | between operator lower upper room =>
      exact ⟨_, .between operator lower upper (ne_maxValue_iff.2 room)⟩
    | text operator operand => exact ⟨_, .text operator operand⟩
    | region operator =>
      obtain ⟨g, hg⟩ := exists_geo_of_geoWithin operator
      exact ⟨_, .region operator hg⟩
  · rintro ⟨d, h⟩
    cases h with
    | comparison operator operand => exact .comparison operator operand
    | between operator lower upper successor =>
      exact .between operator lower upper (ne_maxValue_iff.1 successor)
    | text operator operand => exact .text operator operand
    | region operator => exact .region operator

namespace PushesTo

/-- The query carries the predicate. -/
theorem carries (h : p.PushesTo type d) : p.Carries d.query := by
  cases h with
  | comparison operator => exact .exact (ne_between_of_isComparison operator)
  | between operator lower upper successor =>
    have hcarries := Carries.range operator lower upper (NumberKey.toInt_succ successor)
    rwa [operator, lower] at hcarries
  | text operator operand =>
    have hne : p.operator ≠ .between := by simp [operator]
    have hcarries := Carries.exact hne
    rwa [operator, operand] at hcarries
  | region operator operand =>
    have hne : p.operator ≠ .between := by simp [operator]
    have hcarries := Carries.exact hne
    rwa [operator, operand] at hcarries

/-- All queries but those for ranges are exact. -/
theorem exact_eq_true_iff (h : p.PushesTo type d) : d.exact = true ↔ p.operator ≠ .between := by
  cases h with
  | comparison operator => simp [ne_between_of_isComparison operator]
  | between operator => simp [operator]
  | text operator => simp [operator]
  | region operator => simp [operator]

theorem isPushable (h : p.PushesTo type d) : p.operator.isPushable = true := by
  cases h with
  | comparison operator =>
    rcases Operator.eq_of_isComparison operator with hp | hp | hp | hp | hp
    all_goals
      rw [hp]
      rfl
  | between operator => simp [operator, Operator.isPushable]
  | text operator => simp [operator, Operator.isPushable]
  | region operator => simp [operator, Operator.isPushable]

theorem fits (h : p.PushesTo type d) : Plan.fits type p = true := by
  unfold Plan.fits
  cases h with
  | comparison operator operand =>
    rcases Operator.eq_of_isComparison operator with hp | hp | hp | hp | hp
    all_goals
      rw [hp, operand]
      rfl
  | between operator lower upper =>
    rw [operator, lower, upper]
    rfl
  | text operator operand =>
    rw [operator, operand]
    rfl
  | region operator => rw [operator]

theorem queryFor? (h : p.PushesTo type d) : Plan.queryFor? type p = some d := by
  cases h with
  | comparison operator => exact Plan.queryFor?_of_isComparison operator
  | between operator lower upper successor => exact Plan.queryFor?_of_between operator lower upper successor
  | text operator operand => simp only [Plan.queryFor?, operator, operand]
  | region operator operand => simp only [Plan.queryFor?, operator, operand]

end PushesTo

end Predicate

/-! ## Pushing a predicate -/

namespace Plan

variable {catalog : Catalog} {collection : String} {p : Predicate} {d : Pushdown}

theorem pushdown?_of_pushesTo {ix : IndexDescriptor} (hplain : p.Plain)
    (hix : catalog collection p.field = some ix) (h : p.PushesTo ix.type d) :
    pushdown? catalog collection p = some d := by
  unfold pushdown?
  rw [h.isPushable, hplain.caseSensitive, hplain.ordinary,
    Predicate.selector_of_isPushable h.isPushable]
  change (catalog collection p.field).bind _ = some d
  rw [hix, Option.bind_some, if_pos h.fits]
  exact h.queryFor?

/-- Just the eligible predicates become queries. -/
theorem eligible_iff : p.Eligible catalog collection ↔ ∃ d, pushdown? catalog collection p = some d := by
  constructor
  · intro h
    obtain ⟨ix, hix, hsuits⟩ := h.suits
    obtain ⟨d, hd⟩ := Predicate.suits_iff.1 hsuits
    exact ⟨d, pushdown?_of_pushesTo h.toPlain hix hd⟩
  · rintro ⟨d, hd⟩
    obtain ⟨hcase, hmetadata, ix, hix, hpushes⟩ := pushesTo_of_pushdown? hd
    exact ⟨⟨hcase, hmetadata⟩, ix, hix, Predicate.suits_iff.2 ⟨d, hpushes⟩⟩

theorem not_eligible_iff : ¬ p.Eligible catalog collection ↔ pushdown? catalog collection p = none := by
  rw [eligible_iff, ← Option.isSome_iff_exists, Bool.not_eq_true, Option.isSome_eq_false_iff,
    Option.isNone_iff_eq_none]

/-- Nothing is taken just if no child is an eligible predicate. -/
theorem takePushable?_eq_none_iff {ts : List PredicateTree} :
    takePushable? catalog collection ts = none ↔
      ∀ p, .leaf p ∈ ts → ¬ p.Eligible catalog collection := by
  induction ts with
  | nil => simp [takePushable?]
  | cons t ts ih =>
    cases t with
    | leaf q =>
      cases hq : pushdown? catalog collection q with
      | some d =>
        have heligible : q.Eligible catalog collection := eligible_iff.2 ⟨d, hq⟩
        simp only [takePushable?, PredicateTree.leaf?, Option.bind_some, hq, reduceCtorEq, false_iff]
        exact fun h => h q List.mem_cons_self heligible
      | none =>
        simp only [takePushable?, PredicateTree.leaf?, Option.bind_some, hq, Option.map_eq_none_iff, ih,
          List.mem_cons, PredicateTree.leaf.injEq, forall_eq_or_imp, not_eligible_iff.2 hq,
          not_false_eq_true, true_and]
    | branch c us =>
      simp only [takePushable?, PredicateTree.leaf?, Option.bind_none, Option.map_eq_none_iff, ih,
        List.mem_cons, reduceCtorEq, false_or]

/-- A plan pushes something just if a conjunct of the tree is eligible. -/
theorem exists_pushed_iff {t : PredicateTree} :
    (∃ q, (ofTree catalog collection t).pushed = some q) ↔
      ∃ p : Predicate, p.IsConjunct t ∧ p.Eligible catalog collection := by
  constructor
  · rintro ⟨q, hq⟩
    rcases ofTree_cases catalog collection t with hscan | ⟨p, d, hsplits⟩
    · rw [hscan] at hq
      contradiction
    · exact ⟨p, hsplits.conjunct, eligible_iff.2 ⟨d, hsplits.pushdown⟩⟩
  · rintro ⟨p, hconjunct, heligible⟩
    cases hconjunct with
    | itself =>
      obtain ⟨d, hd⟩ := eligible_iff.1 heligible
      exact ⟨d.query, by simp only [ofTree, hd]⟩
    | @child ts hmem =>
      cases htake : takePushable? catalog collection ts with
      | none => exact absurd heligible (takePushable?_eq_none_iff.1 htake p hmem)
      | some taken => exact ⟨taken.1.query, by simp only [ofTree, htake]⟩

/-! ## The first eligible predicate -/

/-- The predicate is the first eligible one, and the others are the trees beside it in their order: the
    tree is the predicate itself, or a conjunction with no eligible predicate before it. -/
inductive Chooses (catalog : Catalog) (collection : String) :
    PredicateTree → Predicate → List PredicateTree → Prop
  | itself {p : Predicate} (eligible : p.Eligible catalog collection) :
    Chooses catalog collection (.leaf p) p []
  | child {before after : List PredicateTree} {p : Predicate} (eligible : p.Eligible catalog collection)
      (first : ∀ q, .leaf q ∈ before → ¬ q.Eligible catalog collection) :
    Chooses catalog collection (.branch .and (before ++ .leaf p :: after)) p (before ++ after)

/-- What is left when these trees are left of a conjunction: nothing of none, and one as it is. -/
inductive Leaves : List PredicateTree → Option PredicateTree → Prop
  | none : Leaves [] none
  | one (t : PredicateTree) : Leaves [t] (some t)
  | several (t u : PredicateTree) (ts : List PredicateTree) :
    Leaves (t :: u :: ts) (some (.branch .and (t :: u :: ts)))

theorem leaves_conjunction (ts : List PredicateTree) : Leaves ts (conjunction ts) := by
  cases ts with
  | nil => exact .none
  | cons t us =>
    cases us with
    | nil => exact .one t
    | cons u us => exact .several t u us

/-- A conjunction is as its other conjuncts on a record that satisfies the chosen one. -/
theorem Chooses.evaluate_eq {t : PredicateTree} {others : List PredicateTree}
    (h : Chooses catalog collection t p others) {ev : Evaluator} {r : Record}
    (hp : ev.evaluate r (.leaf p) = .ok true) : ev.evaluate r t = ev.evaluateAll r others := by
  cases h with
  | itself =>
    rw [Evaluator.evaluateAll_nil]
    exact hp
  | child => rw [Evaluator.evaluate_and, Evaluator.evaluateAll_append_cons hp]

/-- A plan pushes the predicate, and leaves the whole tree for a range and the others otherwise, which
    tells the records that satisfy the predicate apart as the tree does. -/
structure Pushes (t : PredicateTree) (p : Predicate) (others : List PredicateTree) (plan : Plan) :
    Prop where
  pushed : ∃ q, plan.pushed = some q ∧ p.Carries q
  whole : p.operator = .between → plan.residual = some t
  rest : p.operator ≠ .between → Leaves others plan.residual
  meaning : ∀ (ev : Evaluator) (r : Record), ev.evaluate r (.leaf p) = .ok true →
    plan.accepts ev r = ev.evaluate r t

/-- The plan that a query for the chosen predicate leads to. -/
theorem Chooses.pushes {t : PredicateTree} {others : List PredicateTree}
    (h : Chooses catalog collection t p others) (hd : pushdown? catalog collection p = some d) :
    Pushes t p others ⟨some d.query, if d.exact then conjunction others else some t⟩ := by
  obtain ⟨_, _, ix, _, hpushes⟩ := pushesTo_of_pushdown? hd
  refine ⟨⟨d.query, rfl, hpushes.carries⟩, ?_, ?_, ?_⟩
  · intro hop
    exact if_neg fun hexact => hpushes.exact_eq_true_iff.1 hexact hop
  · intro hop
    dsimp only
    rw [if_pos (hpushes.exact_eq_true_iff.2 hop)]
    exact leaves_conjunction others
  · intro ev r hp
    cases d.exact with
    | true =>
      rw [h.evaluate_eq hp]
      exact accepts_conjunction _ _
    | false => exact accepts_some _ _

/-- If a conjunct of a tree is eligible, there is a first one, and its query is pushed with its own field,
    operator and operands, except that the next integer stands for the upper bound of a range. What is left
    is the whole tree for a range, and otherwise the trees beside this one conjunct. If no conjunct is
    eligible, nothing is pushed and the whole tree is left. -/
theorem ofTree_pushes_first (catalog : Catalog) (collection : String) (t : PredicateTree) :
    ((∀ p : Predicate, p.IsConjunct t → ¬ p.Eligible catalog collection) ∧
      ofTree catalog collection t = ⟨none, some t⟩) ∨
    ∃ p others, Chooses catalog collection t p others ∧
      Pushes t p others (ofTree catalog collection t) := by
  cases t with
  | leaf p =>
    cases hd : pushdown? catalog collection p with
    | none =>
      refine .inl ⟨fun q hq => ?_, by simp only [ofTree, hd]⟩
      cases hq with
      | itself => exact not_eligible_iff.2 hd
    | some d =>
      have hchooses : Chooses catalog collection (.leaf p) p [] := .itself (eligible_iff.2 ⟨d, hd⟩)
      refine .inr ⟨p, [], hchooses, ?_⟩
      simp only [ofTree, hd]
      exact hchooses.pushes hd
  | branch c ts =>
    cases c with
    | or =>
      refine .inl ⟨fun q hq => ?_, rfl⟩
      cases hq
    | and =>
      cases htake : takePushable? catalog collection ts with
      | none =>
        refine .inl ⟨fun q hq => ?_, by simp only [ofTree, htake]⟩
        cases hq with
        | child hmem => exact takePushable?_eq_none_iff.1 htake q hmem
      | some taken =>
        obtain ⟨d, others⟩ := taken
        obtain ⟨before, p, after, rfl, rfl, hd, hbefore⟩ := takePushable?_eq_some htake
        have hchooses : Chooses catalog collection (.branch .and (before ++ .leaf p :: after)) p
            (before ++ after) :=
          .child (eligible_iff.2 ⟨d, hd⟩) fun q hq => not_eligible_iff.2 (hbefore (.leaf q) hq)
        refine .inr ⟨p, before ++ after, hchooses, ?_⟩
        simp only [ofTree, htake]
        exact hchooses.pushes hd

/-- A catalog with an index of numbers on every field. -/
def numbers : Catalog :=
  fun collection field => some ⟨collection, "i", field, .numeric⟩

/-- A range up to the largest integer. -/
def nonnegative : Predicate :=
  ⟨"n", .between, .int 0, some (.int Int64.maxValue), false, none, by decide +kernel⟩

/-- The condition that `n` is 1. -/
def isOne : Predicate :=
  ⟨"n", .eq, .int 1, none, false, none, by decide +kernel⟩

/-- The range is passed by. Of the two equal conditions behind it the first is pushed and one is left. -/
theorem ofTree_pushes_first_behind_range :
    let plan := ofTree numbers "c" (.branch .and [.leaf nonnegative, .leaf isOne, .leaf isOne])
    (∃ q, plan.pushed = some q ∧ isOne.Carries q) ∧
      Leaves [.leaf nonnegative, .leaf isOne] plan.residual := by
  intro plan
  have hone : isOne.Eligible numbers "c" := ⟨⟨rfl, rfl⟩, _, rfl, .comparison rfl rfl⟩
  have hrange : ¬ nonnegative.Eligible numbers "c" := not_eligible_iff.2 (by decide +kernel)
  rcases ofTree_pushes_first numbers "c"
    (.branch .and [.leaf nonnegative, .leaf isOne, .leaf isOne]) with
    ⟨hnone, -⟩ | ⟨p, others, hchooses, hpushes⟩
  · exact absurd hone (hnone isOne (.child (by simp)))
  · obtain ⟨rfl, rfl⟩ : p = isOne ∧ others = [.leaf nonnegative, .leaf isOne] := by
      generalize htree : PredicateTree.branch .and _ = t at hchooses
      cases hchooses with
      | itself => contradiction
      | @child before after p eligible first =>
        injection htree with _ hchildren
        -- there is just one condition before the chosen one: the range, which is not eligible
        cases before with
        | nil =>
          obtain ⟨⟨rfl⟩, -⟩ := List.cons.inj hchildren
          exact absurd eligible hrange
        | cons u before =>
          obtain ⟨rfl, hothers⟩ := List.cons.inj hchildren
          cases before with
          | nil =>
            obtain ⟨⟨rfl⟩, rfl⟩ := List.cons.inj hothers
            exact ⟨rfl, rfl⟩
          | cons u before =>
            obtain ⟨rfl, -⟩ := List.cons.inj hothers
            exact absurd hone (first isOne (by simp))
    exact ⟨hpushes.pushed, hpushes.rest (by decide)⟩

end Plan

end Quarry

-- SUMMARY: The comparison operators are one order, and a range is what its two bounds say together.
import Quarry.Proofs.Evaluation.Reordering
import Quarry.Proofs.Index.Comparison
import Quarry.Proofs.PredicateTree.Joining

/-!
# Comparisons as one order

Equality and order are tested in different ways, each chosen by the kinds of the two values. With a number or
a text as the operand they still tell of one and the same order: both tests have an outcome for the same
stored values, and a value is equal to the operand just if it is ordered with it as equal. So the outcomes of
all comparisons with one operand follow from where the stored value stands. A range asks twice, and looks at
its upper bound only if the lower one holds, as a conjunction of the two bounds does.
-/

namespace Quarry

open Comparison

/-! ## Comparisons with one operand -/

namespace Operator

/-- Whether the operator relates a stored value to one operand, by equality or by order. -/
def isRelational (op : Operator) : Bool :=
  op == .notEq || op.isComparison

/-- What a relational operator says of a stored value whose order to the operand is given. -/
def relates (op : Operator) (o : Ordering) : Bool :=
  if op = .notEq then !holds .eq o else op.holds o

theorem isScalarComparison_of_isRelational {op : Operator} (h : op.isRelational = true) :
    op.isScalarComparison = true := by
  cases op <;> first | rfl | contradiction

theorem effectiveArity_of_isRelational {op : Operator} (h : op.isRelational = true) :
    effectiveArity op none = 1 := by
  cases op <;> first | rfl | contradiction

end Operator

/-- Of below, equal and above exactly one holds, and the other comparisons follow from these. -/
structure Coherent (accepts : Operator → Bool) : Prop where
  one : (accepts .lt).toNat + (accepts .eq).toNat + (accepts .gt).toNat = 1
  ltEq : accepts .ltEq = (accepts .lt || accepts .eq)
  gtEq : accepts .gtEq = (accepts .gt || accepts .eq)
  notEq : accepts .notEq = !accepts .eq

/-- Wherever a value stands, the comparisons of it are coherent. -/
theorem coherent_relates (o : Ordering) : Coherent (Operator.relates · o) := by
  cases o <;> exact ⟨rfl, rfl, rfl, rfl⟩

namespace Condition

variable {field : String} {v : Value} {ignoreCase : Bool} {op : Operator}

/-- Whether a comparison by equality or order is well formed does not depend on the operator, as long as the
    operand is in its domain. -/
theorem exists_build_relational_iff (hop : op.isRelational = true) (hv : v.isScalar = true)
    (hdomain : domainFault? op v none = none) :
    (∃ p, (comparison field v ignoreCase op).build = .ok p) ↔
      field ≠ "" ∧ (isMetadataField field = true → v.kind = .integer) ∧
        (ignoreCase = true → v.kind = .string) := by
  have hscalar := Operator.isScalarComparison_of_isRelational hop
  rw [exists_build_comparison_iff (Operator.effectiveArity_of_isRelational hop) hv hdomain]
  simp [hscalar]

/-- Numbers and texts are in the domain of all operators by equality or order. -/
theorem exists_build_ordered_iff (hop : op.isRelational = true) (hv : v.kind.isOrdered = true) :
    (∃ p, (comparison field v ignoreCase op).build = .ok p) ↔
      field ≠ "" ∧ (isMetadataField field = true → v.kind = .integer) ∧
        (ignoreCase = true → v.kind = .string) :=
  exists_build_relational_iff hop (Kind.isScalar_of_isOrdered hv)
    (domainFault?_of_isOrdered (Operator.isScalarComparison_of_isRelational hop) hv)

end Condition

namespace Evaluator

variable (ev : Evaluator) {r : Record} {p : Predicate} {stored : Value} {o : Ordering}

/-! ## Outcomes -/

/-- A relational operator asks for the order of the stored value and the operand. -/
theorem test_relational (hop : p.operator.isRelational = true) (hv : p.value1.kind.isOrdered = true)
    (ho : order p.ignoreCase stored p.value1 = .ok o) :
    ev.test p stored = .ok (p.operator.relates o) := by
  by_cases hne : p.operator = .notEq
  · simp only [test, hne, equal_of_order hv ho, Operator.relates, if_pos]
    rfl
  · rw [Operator.relates, if_neg hne]
    refine test_comparison ev ?_ hv ho
    simpa [Operator.isRelational, hne] using hop

/-- A value that does not compare with the first operand is a mismatch for every scalar comparison. -/
theorem evaluate_scalar_mismatch (hop : p.operator.isScalarComparison = true)
    (hr : r.resolve? p.field = some stored) (hk : stored.kind.comparable p.value1.kind = false) :
    ∃ e : EvaluationError, e.IsMismatch ∧ ev.evaluate r (.leaf p) = .error e := by
  apply evaluate_mismatch ev hr
  rw [test_of_isScalarComparison ev hop]
  exact ⟨_, ⟨_, _, rfl⟩, (discerns_rule (domain_of_isScalarComparison hop)).refuses stored hk⟩

section

variable {field : String} {v : Value} {ignoreCase : Bool} {op : Operator}

/-- A comparison that is built says how the stored value stands to the operand. -/
theorem evaluate_comparison_decided (hp : (Condition.comparison field v ignoreCase op).build = .ok p)
    (hop : op.isRelational = true) (hv : v.kind.isOrdered = true)
    (hr : r.resolve? field = some stored) (ho : order ignoreCase stored v = .ok o) :
    ev.evaluate r (.leaf p) = .ok (op.relates o) := by
  obtain ⟨rfl, rfl, rfl, -, rfl, -⟩ := Condition.parts_of_build_comparison hp
  rw [accepts_of_resolve ev hr, test_relational ev hop hv ho]
  rfl

theorem evaluate_comparison_mismatch (hp : (Condition.comparison field v ignoreCase op).build = .ok p)
    (hop : op.isRelational = true) (hr : r.resolve? field = some stored)
    (hk : stored.kind.comparable v.kind = false) :
    ∃ e : EvaluationError, e.IsMismatch ∧ ev.evaluate r (.leaf p) = .error e := by
  obtain ⟨rfl, rfl, rfl, -, rfl, -⟩ := Condition.parts_of_build_comparison hp
  exact evaluate_scalar_mismatch ev (Operator.isScalarComparison_of_isRelational hop) hr hk

theorem evaluate_comparison_missing (hp : (Condition.comparison field v ignoreCase op).build = .ok p)
    (hr : r.resolve? field = none) : ev.evaluate r (.leaf p) = .ok false := by
  obtain ⟨rfl, -⟩ := Condition.parts_of_build_comparison hp
  exact evaluate_of_missing ev hr

end

/-! ## Ranges -/

/-- The bounds of a range are two numbers or two texts. -/
theorem bounds_of_between (hop : p.operator = .between) :
    ∃ hi, p.value2 = some hi ∧ p.value1.kind.isOrdered = true ∧ hi.kind.isOrdered = true ∧
      hi.kind.family = p.value1.kind.family := by
  have hdomain : p.operator.domain = .ordered := by
    rw [hop]
    rfl
  obtain ⟨hi, hhi, -⟩ := second_eq_ok (arity_of_operator (p := p) (by rw [hop]; rfl))
  obtain ⟨hlo, hbounds⟩ := Predicate.isOrdered_of_ordered hdomain
  exact ⟨hi, hhi, hlo, hbounds hi hhi⟩

/-- Both bounds of a range are well formed on their own. -/
theorem exists_bounds (hop : p.operator = .between) :
    ∃ hi lower upper, p.value2 = some hi ∧
      (Condition.comparison p.field p.value1 p.ignoreCase .gtEq).build = .ok lower ∧
      (Condition.comparison p.field hi p.ignoreCase .ltEq).build = .ok upper := by
  obtain ⟨hi, hhi, hlo, hordered, hfamily⟩ := bounds_of_between hop
  have hmetadata (h : isMetadataField p.field = true) :
      p.value1.kind = .integer ∧ ∀ v, p.value2 = some v → v.kind = .integer :=
    (metadataFault?_eq_none_iff.1 (p.meets.metadata h)).2
  have hcase (h : p.ignoreCase = true) : p.value1.kind = .string := by
    have htext := p.meets.ignoreCase h
    have hselector : p.selector = none := Predicate.selector_eq_none (by rw [hop]; decide)
    simp only [Predicate.condition, hselector] at htext
    exact (comparesText_of_isScalar (by rw [hop]; decide) (Kind.isScalar_of_isOrdered hlo)).1 htext
  have hcase' (h : p.ignoreCase = true) : hi.kind = .string := by
    rw [hcase h] at hfamily
    revert hfamily
    cases hi.kind <;> decide
  obtain ⟨lower, hlower⟩ : ∃ q, (Condition.comparison p.field p.value1 p.ignoreCase .gtEq).build = .ok q :=
    (Condition.exists_build_ordered_iff rfl hlo).2 ⟨p.meets.field, fun h => (hmetadata h).1, hcase⟩
  obtain ⟨upper, hupper⟩ : ∃ q, (Condition.comparison p.field hi p.ignoreCase .ltEq).build = .ok q :=
    (Condition.exists_build_ordered_iff rfl hordered).2
      ⟨p.meets.field, fun h => (hmetadata h).2 hi hhi, hcase'⟩
  exact ⟨hi, lower, upper, hhi, hlower, hupper⟩

/-- A range says what its lower and its upper bound say together. -/
theorem evaluate_between_agrees (hop : p.operator = .between) {hi : Value} (hhi : p.value2 = some hi)
    {lower upper : Predicate}
    (hlower : (Condition.comparison p.field p.value1 p.ignoreCase .gtEq).build = .ok lower)
    (hupper : (Condition.comparison p.field hi p.ignoreCase .ltEq).build = .ok upper) (r : Record) :
    Agree EvaluationError.IsMismatch (ev.evaluate r (.leaf p))
      (ev.evaluate r (.branch .and [.leaf lower, .leaf upper])) := by
  obtain ⟨_, hhi', hlo, hordered, hfamily⟩ := bounds_of_between hop
  obtain rfl := Option.some.inj (hhi.symm.trans hhi')
  rw [evaluate_and, evaluateAll_cons, evaluateAll_singleton]
  cases hr : r.resolve? p.field with
  | none =>
    rw [evaluate_of_missing ev hr, evaluate_comparison_missing ev hlower hr]
    exact .decided false
  | some stored =>
    cases hk : stored.kind.comparable p.value1.kind with
    | false =>
      obtain ⟨e, he, herror⟩ := evaluate_scalar_mismatch ev (by rw [hop]; rfl) hr hk
      obtain ⟨e', he', herror'⟩ := evaluate_comparison_mismatch ev hlower rfl hr hk
      rw [herror, herror']
      exact .refused he he'
    | true =>
      have hk' : stored.kind.comparable hi.kind = true := by
        rw [Kind.comparable_iff] at hk ⊢
        exact hk.trans hfamily.symm
      obtain ⟨below, hbelow⟩ := (discerns_order hlo p.ignoreCase).decides stored hk
      obtain ⟨above, habove⟩ := (discerns_order hordered p.ignoreCase).decides stored hk'
      rw [evaluate_between ev hop rfl hhi hr hbelow habove,
        evaluate_comparison_decided ev hlower rfl hlo hr hbelow,
        evaluate_comparison_decided ev hupper rfl hordered hr habove]
      cases below <;> cases above <;> exact .decided _

/-! ## Coherence -/

/-- All comparisons of a field with a number or a text are well formed if one of them is. On a record that
    has the field they are all mismatches if the stored value does not compare with the operand, and
    otherwise all have an outcome: one of below, equal and above accepts the record, and the other
    comparisons say what follows from that. A range agrees on every record with the conjunction of its
    bounds. -/
theorem comparisons_coherent (ev : Evaluator) :
    (∀ (field : String) (v : Value) (ignoreCase : Bool), v.kind.isOrdered = true →
      (∀ op op', op.isRelational = true → op'.isRelational = true →
        (∃ p, (Condition.comparison field v ignoreCase op).build = .ok p) →
        ∃ p, (Condition.comparison field v ignoreCase op').build = .ok p) ∧
      ∀ p : Operator → Predicate,
        (∀ op, op.isRelational = true →
          (Condition.comparison field v ignoreCase op).build = .ok (p op)) →
        ∀ r stored, r.resolve? field = some stored →
          (stored.kind.comparable v.kind = false → ∀ op, op.isRelational = true →
            ∃ e : EvaluationError, e.IsMismatch ∧ ev.evaluate r (.leaf (p op)) = .error e) ∧
          (stored.kind.comparable v.kind = true → ∃ accepts : Operator → Bool, Coherent accepts ∧
            ∀ op, op.isRelational = true → ev.evaluate r (.leaf (p op)) = .ok (accepts op))) ∧
    ∀ p : Predicate, p.operator = .between →
      ∃ hi lower upper t, p.value2 = some hi ∧
        (Condition.comparison p.field p.value1 p.ignoreCase .gtEq).build = .ok lower ∧
        (Condition.comparison p.field hi p.ignoreCase .ltEq).build = .ok upper ∧
        PredicateTree.and [.leaf lower, .leaf upper] = .ok t ∧
        ∀ r, Agree EvaluationError.IsMismatch (ev.evaluate r (.leaf p)) (ev.evaluate r t) := by
  constructor
  · intro field v ignoreCase hv
    refine ⟨fun op op' hop hop' h => ?_, fun p hp r stored hr => ⟨fun hk op hop => ?_, fun hk => ?_⟩⟩
    · rw [Condition.exists_build_ordered_iff hop hv] at h
      exact (Condition.exists_build_ordered_iff hop' hv).2 h
    · exact evaluate_comparison_mismatch ev (hp op hop) hop hr hk
    · obtain ⟨o, ho⟩ := (discerns_order hv ignoreCase).decides stored hk
      refine ⟨(Operator.relates · o), coherent_relates o, fun op hop => ?_⟩
      exact evaluate_comparison_decided ev (hp op hop) hop hv hr ho
  · intro p hop
    obtain ⟨hi, lower, upper, hhi, hlower, hupper⟩ := exists_bounds hop
    exact ⟨hi, lower, upper, _, hhi, hlower, hupper, rfl,
      evaluate_between_agrees ev hop hhi hlower hupper⟩

/-- A range from an integer to a double. -/
def upToNegativeZero : Predicate :=
  ⟨"n", .between, .int (-5), some (.float (.ofMagnitude true 0)), false, none, rfl⟩

/-- The comparisons with -0. -/
def withNegativeZero (op : Operator) : Predicate :=
  (Condition.comparison "n" (.float (.ofMagnitude true 0)) false op).build.toOption.getD upToNegativeZero

/-- A record with the integer 0, which is above -0. -/
def atZero : Record :=
  ⟨"k", .ofList [("n", .int 0)], 1, none⟩

theorem comparisons_coherent_atZero :
    (∀ op, op.isRelational = true →
      (Condition.comparison "n" (.float (.ofMagnitude true 0)) false op).build = .ok (withNegativeZero op)) ∧
    (∃ accepts : Operator → Bool, Coherent accepts ∧ ∀ op, op.isRelational = true →
      containment.evaluate atZero (.leaf (withNegativeZero op)) = .ok (accepts op)) ∧
    containment.evaluate atZero (.leaf (withNegativeZero .gt)) = .ok true ∧
    (∃ p, (Condition.comparison "n" (.string "ten") true .notEq).build = .ok p) ∧
    ∃ hi lower upper t, upToNegativeZero.value2 = some hi ∧
      (Condition.comparison "n" (.int (-5)) false .gtEq).build = .ok lower ∧
      (Condition.comparison "n" hi false .ltEq).build = .ok upper ∧
      PredicateTree.and [.leaf lower, .leaf upper] = .ok t ∧
      ∀ r, Agree EvaluationError.IsMismatch (containment.evaluate r (.leaf upToNegativeZero))
        (containment.evaluate r t) := by
  have hfamily : ∀ op, op.isRelational = true →
      (Condition.comparison "n" (.float (.ofMagnitude true 0)) false op).build = .ok (withNegativeZero op) := by
    intro op hop
    cases op <;> first | rfl | contradiction
  have hzero : atZero.resolve? "n" = some (.int 0) := by rfl
  have habove : (Binary64.ofInt64 0).totalCompare (.ofMagnitude true 0) = .gt := by decide +kernel
  obtain ⟨hcomparisons, hranges⟩ := comparisons_coherent containment
  refine ⟨hfamily, ?_, ?_, ?_, hranges upToNegativeZero rfl⟩
  · exact ((hcomparisons "n" _ false rfl).2 _ hfamily atZero _ hzero).2 rfl
  · exact evaluate_comparison_decided containment (hfamily .gt rfl) rfl rfl hzero
      (congrArg Except.ok habove)
  · exact (hcomparisons "n" (.string "ten") true rfl).1 .eq .notEq rfl rfl ⟨_, rfl⟩

end Evaluator

end Quarry

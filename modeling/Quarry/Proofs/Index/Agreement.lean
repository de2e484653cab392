-- SUMMARY: When an index of numbers and evaluation say the same of a stored number.
import Quarry.Proofs.Index.Comparison
import Quarry.Proofs.Index.NumberOrder

/-!
# Numbers in an index and under evaluation

An index and evaluation say the same of every stored integer. Of a stored double they say the same
unless its order to the operand as a key differs from that as a double, and the comparison can tell.
That is so when the integer is rounded to the stored double, or when the stored double is -0 and the
integer 0.
-/

namespace Quarry

/-! ## Stored numbers -/

namespace NumberKey

/-- The order in an index and under evaluation of a stored double and an integer differ, and the
    comparison can tell. Either the integer is rounded to the double and only evaluation takes them
    for equal, or the double is -0 and only the index takes it for equal to 0. -/
def Discord (op : Operator) (x : Binary64) (n : Int64) : Prop :=
  (x = .ofInt64 n ∧
    op.holds (compare x.signedUnits (n.toInt * Binary64.unitsPerOne)) ≠ op.holds .eq) ∨
  (x = .negativeZero ∧ n = 0 ∧ op.holds .eq ≠ op.holds .lt)

variable {op : Operator} {x : Binary64} {n lo hi : Int64}

theorem totalCompare_self (x : Binary64) : x.totalCompare x = .eq :=
  Int.compare_eq_eq.2 rfl

theorem compare_ofFloat_negativeZero :
    compare (ofFloat .negativeZero) (integer 0) = .eq := by
  rw [compare_ofFloat_integer (by decide +kernel)]
  exact Int.compare_eq_eq.2 (by decide +kernel)

/-- A comparison of a stored double with an integer holds in the index just if it holds under
    evaluation, discord apart. -/
theorem holds_eq_iff_not_discord (op : Operator) (x : Binary64) (n : Int64) :
    op.holds (compare (ofFloat x) (integer n)) = op.holds (x.totalCompare (.ofInt64 n)) ↔
      ¬ Discord op x n := by
  unfold Discord
  by_cases heq : x = .ofInt64 n
  · subst heq
    have hzero : ¬ (Binary64.ofInt64 n = .negativeZero ∧ n = 0 ∧ op.holds .eq ≠ op.holds .lt) := by
      rintro ⟨hx, rfl, _⟩
      have hlt := Binary64.totalCompare_negativeZero
      rw [← hx, totalCompare_self] at hlt
      cases hlt
    rw [totalCompare_self, compare_ofFloat_integer (Binary64.isFinite_ofInt64 n),
      or_iff_left hzero]
    simp only [true_and, ne_eq, Classical.not_not]
  · by_cases hzero : x = .negativeZero ∧ n = 0
    · obtain ⟨rfl, rfl⟩ := hzero
      rw [compare_ofFloat_negativeZero, Binary64.totalCompare_negativeZero]
      simp only [heq, false_and, false_or, true_and, ne_eq, Classical.not_not]
    · rw [totalCompare_ofInt64 heq hzero]
      simp only [heq, false_and, false_or, true_iff]
      exact fun h => hzero ⟨h.1, h.2.1⟩

/-- A stored double that evaluation takes for one of the bounds is outside the range from the lower
    bound up to the successor of the upper one. -/
def Outlier (x : Binary64) (lo hi : Int64) : Prop :=
  (x = .ofInt64 lo ∧ x.signedUnits < lo.toInt * Binary64.unitsPerOne) ∨
  (x = .ofInt64 hi ∧ (hi.toInt + 1) * Binary64.unitsPerOne ≤ x.signedUnits)

theorem toInt_succ (h : hi ≠ Int64.maxValue) : (hi + 1).toInt = hi.toInt + 1 := by
  have hlo := hi.le_toInt
  have hne : hi.toInt ≠ 2 ^ 63 - 1 := fun heq => h (Int64.toInt_inj.1 heq)
  have hhi := hi.toInt_lt
  rw [Int64.toInt_add, Int64.toInt_one]
  exact Int.bmod_eq_of_le (by omega) (by omega)

/-- Not below the bound under evaluation, but below it in the index. -/
theorem compare_eq_lt_iff (h : x.totalCompare (.ofInt64 lo) ≠ .lt) :
    compare (ofFloat x) (integer lo) = .lt ↔
      x = .ofInt64 lo ∧ x.signedUnits < lo.toInt * Binary64.unitsPerOne := by
  constructor
  · intro hlt
    have heq : x = .ofInt64 lo := by
      refine Classical.byContradiction fun hne => h ?_
      by_cases hzero : x = .negativeZero ∧ lo = 0
      · obtain ⟨rfl, rfl⟩ := hzero
        exact Binary64.totalCompare_negativeZero
      · rw [totalCompare_ofInt64 hne hzero]
        exact hlt
    have hfinite : x.isFinite = true := heq ▸ Binary64.isFinite_ofInt64 lo
    rw [compare_ofFloat_integer hfinite] at hlt
    exact ⟨heq, Int.compare_eq_lt.1 hlt⟩
  · rintro ⟨heq, hlt⟩
    have hfinite : x.isFinite = true := heq ▸ Binary64.isFinite_ofInt64 lo
    rw [compare_ofFloat_integer hfinite]
    exact Int.compare_eq_lt.2 hlt

/-- Not above the bound under evaluation, but not below its successor in the index. -/
theorem compare_succ_ne_lt_iff (hmax : hi ≠ Int64.maxValue)
    (h : x.totalCompare (.ofInt64 hi) ≠ .gt) :
    compare (ofFloat x) (integer (hi + 1)) ≠ .lt ↔
      x = .ofInt64 hi ∧ (hi.toInt + 1) * Binary64.unitsPerOne ≤ x.signedUnits := by
  have hsucc := toInt_succ hmax
  have hstep : compare (integer hi) (integer (hi + 1)) = .lt := by
    rw [compare_integer, hsucc]
    exact Int.compare_eq_lt.2 (Int.lt_succ _)
  constructor
  · intro hge
    have hgt : compare (ofFloat x) (integer hi) = .gt := by
      refine Classical.byContradiction fun hle => hge ?_
      exact Std.TransCmp.lt_of_isLE_of_lt (Ordering.isLE_iff_ne_gt.2 hle) hstep
    have heq : x = .ofInt64 hi := by
      refine Classical.byContradiction fun hne => h ?_
      by_cases hzero : x = .negativeZero ∧ hi = 0
      · obtain ⟨rfl, rfl⟩ := hzero
        rw [compare_ofFloat_negativeZero] at hgt
        cases hgt
      · rw [totalCompare_ofInt64 hne hzero]
        exact hgt
    have hfinite : x.isFinite = true := heq ▸ Binary64.isFinite_ofInt64 hi
    rw [compare_ofFloat_integer hfinite, hsucc] at hge
    exact ⟨heq, Int.not_lt.1 fun hlt => hge (Int.compare_eq_lt.2 hlt)⟩
  · rintro ⟨heq, hle⟩ hlt
    have hfinite : x.isFinite = true := heq ▸ Binary64.isFinite_ofInt64 hi
    rw [compare_ofFloat_integer hfinite, hsucc] at hlt
    exact absurd (Int.compare_eq_lt.1 hlt) (Int.not_lt.2 hle)

/-! ## Agreement -/

variable {ev : Evaluator} {r : Record} {p : Predicate} {v : Value} {k : IndexKey}

/-- A comparison of a stored number with an integer. -/
theorem contains_iff_evaluate (ev : Evaluator) (hk : IndexKey.ofValue? .numeric v = some k)
    (hv : r.resolve? p.field = some v) (hop : p.operator.isComparison = true) {n : Int64}
    (hn : p.value1 = .int n) :
    ∃ range, SecondaryIndex.range .numeric ⟨p.field, p.operator, p.value1, p.value2⟩ = .ok range ∧
      ((range.contains k = true ↔ ev.evaluate r (.leaf p) = .ok true) ↔
        ¬ ∃ x, v = .float x ∧ Discord p.operator x n) := by
  obtain ⟨range, hrange, hcontains⟩ :=
    SecondaryIndex.range_contains_iff (q := ⟨p.field, p.operator, p.value1, p.value2⟩) hop hn
  refine ⟨range, hrange, ?_⟩
  rcases IndexKey.number_cases hk with ⟨m, rfl, rfl⟩ | ⟨x, rfl, rfl⟩
  · have hevaluate := Evaluator.evaluate_comparison ev hop hn hv (Evaluator.order_int _ m n)
    rw [hcontains, hevaluate, compare_integer]
    simp
  · have hevaluate := Evaluator.evaluate_comparison ev hop hn hv (Evaluator.order_float _ x n)
    have hdiscord := holds_eq_iff_not_discord p.operator x n
    rw [hcontains, hevaluate, Except.ok.injEq, ← Bool.eq_iff_iff, hdiscord]
    simp

/-- What evaluation accepts as between two integers is in the pushed range, outliers apart. -/
theorem contains_of_evaluate_between (hk : IndexKey.ofValue? .numeric v = some k)
    (hv : r.resolve? p.field = some v) (hop : p.operator = .between) {lo hi : Int64}
    (hlo : p.value1 = .int lo) (hhi : p.value2 = some (.int hi)) (hmax : hi ≠ Int64.maxValue)
    (haccepts : ev.evaluate r (.leaf p) = .ok true) :
    KeyRange.contains ⟨.included (.number (.integer lo)), .excluded (.number (.integer (hi + 1)))⟩
        k = true ↔
      ¬ ∃ x, v = .float x ∧ Outlier x lo hi := by
  rcases IndexKey.number_cases hk with ⟨m, rfl, rfl⟩ | ⟨x, rfl, rfl⟩
  · rw [Evaluator.evaluate_between ev hop hlo hhi hv (Evaluator.order_int _ m lo)
      (Evaluator.order_int _ m hi), Except.ok.injEq, Bool.and_eq_true, bne_iff_ne, bne_iff_ne, Ne,
      Ne, Int.compare_eq_lt, Int.compare_eq_gt] at haccepts
    rw [SecondaryIndex.contains_between, compare_integer, compare_integer, toInt_succ hmax, Ne, Ne,
      Int.compare_eq_lt, Int.compare_eq_lt, Classical.not_not]
    simp only [reduceCtorEq, false_and, exists_false, not_false_eq_true, iff_true]
    exact ⟨haccepts.1, Int.lt_add_one_of_le (Int.not_lt.1 haccepts.2)⟩
  · rw [Evaluator.evaluate_between ev hop hlo hhi hv (Evaluator.order_float _ x lo)
      (Evaluator.order_float _ x hi), Except.ok.injEq, Bool.and_eq_true, bne_iff_ne, bne_iff_ne]
      at haccepts
    obtain ⟨hbelow, habove⟩ := haccepts
    rw [SecondaryIndex.contains_between, Ne, compare_eq_lt_iff hbelow,
      compare_succ_ne_lt_iff hmax habove, ← not_or]
    refine not_congr ⟨fun houtlier => ⟨x, rfl, houtlier⟩, ?_⟩
    rintro ⟨y, hy, houtlier⟩
    cases hy
    exact houtlier

/-- A comparison of a stored number with an integer holds in the index just if it holds under
    evaluation, and the range that is pushed for `BETWEEN` has all stored numbers that evaluation
    accepts, but for doubles where the two orders differ. -/
theorem index_agrees_with_evaluation_iff (hk : IndexKey.ofValue? .numeric v = some k)
    (hv : r.resolve? p.field = some v) :
    (∀ n, p.operator.isComparison = true → p.value1 = .int n →
      ∃ d range, Plan.queryFor? .numeric p = some d ∧
        SecondaryIndex.range .numeric d.query = .ok range ∧
        ((range.contains k = true ↔ ev.evaluate r (.leaf p) = .ok true) ↔
          ¬ ∃ x, v = .float x ∧ Discord p.operator x n)) ∧
    (∀ lo hi, p.operator = .between → p.value1 = .int lo → p.value2 = some (.int hi) →
      hi ≠ Int64.maxValue →
      ∃ d range, Plan.queryFor? .numeric p = some d ∧
        SecondaryIndex.range .numeric d.query = .ok range ∧
        (ev.evaluate r (.leaf p) = .ok true →
          (range.contains k = true ↔ ¬ ∃ x, v = .float x ∧ Outlier x lo hi))) := by
  constructor
  · intro n hop hn
    obtain ⟨range, hrange, hagree⟩ := contains_iff_evaluate ev hk hv hop hn
    exact ⟨_, range, Plan.queryFor?_of_isComparison hop, hrange, hagree⟩
  · intro lo hi hop hlo hhi hmax
    exact ⟨_, _, Plan.queryFor?_of_between hop hlo hhi hmax, SecondaryIndex.range_between _ _ _,
      contains_of_evaluate_between hk hv hop hlo hhi hmax⟩

/-- A record with a double as `n`. -/
def recordOf (x : Binary64) : Record :=
  ⟨"a", .ofList [("n", .float x)], 1, none⟩

/-- The condition that `n` is a given integer. -/
def isInt (n : Int64) : Predicate :=
  ⟨"n", .eq, .int n, none, false, none, by rfl⟩

/-- The double `2 ^ 53` under a condition with the next integer, which is rounded to it. -/
theorem index_agrees_with_evaluation_iff_rounded :
    IndexKey.ofValue? .numeric (.float (.ofInt (2 ^ 53))) =
      some (.number (.integer (.ofInt (2 ^ 53)))) ∧
    (recordOf (.ofInt (2 ^ 53))).resolve? "n" = some (.float (.ofInt (2 ^ 53))) ∧
    ∃ d range, Plan.queryFor? .numeric (isInt (.ofInt (2 ^ 53 + 1))) = some d ∧
      SecondaryIndex.range .numeric d.query = .ok range ∧
      ((range.contains (.number (.integer (.ofInt (2 ^ 53)))) = true ↔
          Evaluator.containment.evaluate (recordOf (.ofInt (2 ^ 53)))
            (.leaf (isInt (.ofInt (2 ^ 53 + 1)))) = .ok true) ↔
        ¬ ∃ x, Value.float (.ofInt (2 ^ 53)) = .float x ∧
          Discord .eq x (.ofInt (2 ^ 53 + 1))) := by
  have hk : IndexKey.ofValue? .numeric (.float (.ofInt (2 ^ 53))) =
      some (.number (.integer (.ofInt (2 ^ 53)))) := by decide +kernel
  have hv : (recordOf (.ofInt (2 ^ 53))).resolve? "n" = some (.float (.ofInt (2 ^ 53))) := by
    rfl
  exact ⟨hk, hv, (index_agrees_with_evaluation_iff hk hv).1 (.ofInt (2 ^ 53 + 1)) rfl rfl⟩

/-- A record with -0 is in the range of the index for 0, and evaluation does not accept it. -/
theorem index_disagrees_on_negativeZero :
    ∃ d range, Plan.queryFor? .numeric (isInt 0) = some d ∧
      SecondaryIndex.range .numeric d.query = .ok range ∧
      range.contains (.number (ofFloat .negativeZero)) = true ∧
      Evaluator.containment.evaluate (recordOf .negativeZero) (.leaf (isInt 0)) = .ok false := by
  obtain ⟨range, hrange, hcontains⟩ :=
    SecondaryIndex.range_contains_iff (q := ⟨"n", .eq, .int 0, none⟩) rfl rfl
  refine ⟨_, range, Plan.queryFor?_of_isComparison rfl, hrange, ?_, ?_⟩
  · rw [hcontains, compare_ofFloat_negativeZero]
    rfl
  · have hv : (recordOf .negativeZero).resolve? (isInt 0).field =
        some (.float .negativeZero) := by rfl
    rw [Evaluator.evaluate_comparison _ rfl rfl hv (Evaluator.order_float _ _ 0),
      Binary64.totalCompare_negativeZero]
    rfl

end NumberKey

end Quarry

-- SUMMARY: What comparisons with integers ask of an index and of evaluation.
import Quarry.Evaluation.Basic
import Quarry.Index.Secondary
import Quarry.Proofs.Evaluation.Branches
import Quarry.Proofs.Predicate.WellFormed
import Quarry.Scan.Plan

/-!
# Comparisons with integers

Every comparison is a question about the order of a stored value and the operand. An index answers it
by the order of keys, and evaluation by the order of values.
-/

namespace Quarry

/-! ## Comparisons -/

namespace Operator

/-- Whether the operator compares with one operand. -/
def isComparison : Operator → Bool
  | .eq | .lt | .ltEq | .gt | .gtEq => true
  | _ => false

/-- What a comparison says of a stored value whose order to the operand is given. -/
def holds : Operator → Ordering → Bool
  | .eq, o => o == .eq
  | .lt, o => o.isLT
  | .ltEq, o => o.isLE
  | .gt, o => o.isGT
  | .gtEq, o => o.isGE
  | _, _ => false

theorem eq_of_isComparison {op : Operator} (h : op.isComparison = true) :
    op = .eq ∨ op = .lt ∨ op = .ltEq ∨ op = .gt ∨ op = .gtEq := by
  cases op <;> simp [isComparison] at h ⊢

end Operator

/-! ## Index ranges -/

/-- A key is in the range from one key up to another if it is not below the one and below the other. -/
theorem KeyRange.contains_between_iff (lower upper k : IndexKey) :
    KeyRange.contains ⟨.included lower, .excluded upper⟩ k = true ↔
      compare k lower ≠ .lt ∧ compare k upper = .lt := by
  have hswap : compare lower k = (compare k lower).swap := Std.OrientedOrd.eq_swap
  simp only [contains, hswap]
  cases compare k lower <;> simp

namespace SecondaryIndex

variable {q : IndexQuery} {n : Int64}

theorem compare_number (a b : NumberKey) :
    compare (IndexKey.number a) (IndexKey.number b) = compare a b := by
  rfl

/-- The range of a comparison holds the keys of which the comparison holds. -/
theorem range_of_comparison {type : IndexType} {bound : IndexKey}
    (hop : q.operator.isComparison = true) (hbound : IndexKey.ofValue? type q.bound1 = some bound) :
    ∃ range, SecondaryIndex.range type q = .ok range ∧
      ∀ k, range.contains k = q.operator.holds (compare k bound) := by
  have hswap (k : IndexKey) : compare bound k = (compare k bound).swap := Std.OrientedOrd.eq_swap
  unfold SecondaryIndex.range
  rw [hbound]
  rcases Operator.eq_of_isComparison hop with hq | hq | hq | hq | hq
  all_goals
    rw [hq]
    refine ⟨_, rfl, ?_⟩
    intro k
    simp only [KeyRange.contains, hswap, Operator.holds]
    cases compare k bound <;> rfl

theorem range_contains_iff (hop : q.operator.isComparison = true) (hn : q.bound1 = .int n) :
    ∃ range, SecondaryIndex.range .numeric q = .ok range ∧
      ∀ k : NumberKey, range.contains (.number k) =
        q.operator.holds (compare k (.integer n)) := by
  have hbound : IndexKey.ofValue? .numeric q.bound1 = some (.number (.integer n)) := by
    rw [hn]
    rfl
  obtain ⟨range, hrange, hcontains⟩ := range_of_comparison hop hbound
  exact ⟨range, hrange, fun k => hcontains (.number k)⟩

theorem range_between (field : String) (lo hi : Int64) :
    SecondaryIndex.range .numeric ⟨field, .between, .int lo, some (.int hi)⟩ =
      .ok ⟨.included (.number (.integer lo)), .excluded (.number (.integer hi))⟩ := by
  rfl

theorem range_text (field t : String) (bound2 : Option Value) :
    SecondaryIndex.range .string ⟨field, .eq, .string t, bound2⟩ =
      .ok ⟨.included (.string t), .included (.string t)⟩ := by
  rfl

/-- A key is in the range between two integers if it is neither below the one nor at least the
    other. -/
theorem contains_between (key : NumberKey) (lo hi : Int64) :
    KeyRange.contains ⟨.included (.number (.integer lo)), .excluded (.number (.integer hi))⟩
        (.number key) = true ↔
      compare key (.integer lo) ≠ .lt ∧ ¬ compare key (.integer hi) ≠ .lt := by
  rw [KeyRange.contains_between_iff, compare_number, compare_number, Classical.not_not]

end SecondaryIndex

/-- The values with a key in an index of numbers. -/
theorem IndexKey.number_cases {v : Value} {k : IndexKey}
    (hk : IndexKey.ofValue? .numeric v = some k) :
    (∃ m, v = .int m ∧ k = .number (.integer m)) ∨
      ∃ x, v = .float x ∧ k = .number (.ofFloat x) := by
  cases v with
  | int m => exact .inl ⟨m, rfl, (Option.some.inj hk).symm⟩
  | float x => exact .inr ⟨x, rfl, (Option.some.inj hk).symm⟩
  | _ => contradiction

/-! ## Pushed queries -/

namespace Plan

variable {p : Predicate}

/-- A comparison is pushed as it is. -/
theorem queryFor?_of_isComparison (hop : p.operator.isComparison = true) :
    queryFor? .numeric p = some ⟨⟨p.field, p.operator, p.value1, p.value2⟩, true⟩ := by
  unfold queryFor?
  rcases Operator.eq_of_isComparison hop with hp | hp | hp | hp | hp
  all_goals rw [hp]

/-- `BETWEEN` is pushed with the successor of the upper bound. -/
theorem queryFor?_of_between {lo hi : Int64} (hop : p.operator = .between)
    (hlo : p.value1 = .int lo) (hhi : p.value2 = some (.int hi)) (hmax : hi ≠ Int64.maxValue) :
    queryFor? .numeric p = some ⟨⟨p.field, .between, .int lo, some (.int (hi + 1))⟩, false⟩ := by
  unfold queryFor?
  simp only [hop, hlo, hhi, if_neg hmax]

end Plan

/-! ## Evaluation -/

namespace Evaluator

variable (ev : Evaluator) {r : Record} {p : Predicate} {v : Value} {n : Int64} {o : Ordering}

theorem compare_toInt_beq (m n : Int64) : (compare m.toInt n.toInt == .eq) = (m == n) := by
  rw [Bool.eq_iff_iff, beq_iff_eq, beq_iff_eq, Int.compare_eq_eq, Int64.toInt_inj]

theorem compare_text_beq (s t : String) : (compare s t == .eq) = (s == t) := by
  rw [Bool.eq_iff_iff, beq_iff_eq, beq_iff_eq, Std.compare_eq_eq_iff_eq]

theorem order_int (ignoreCase : Bool) (m n : Int64) :
    Comparison.order ignoreCase (.int m) (.int n) = .ok (compare m.toInt n.toInt) := by
  rfl

theorem order_float (ignoreCase : Bool) (x : Binary64) (n : Int64) :
    Comparison.order ignoreCase (.float x) (.int n) = .ok (x.totalCompare (.ofInt64 n)) := by
  rfl

/-- A value equals a number or a text if it is ordered with it as equal. -/
theorem equal_of_order {ignoreCase : Bool} {w : Value} (hw : w.kind.isOrdered = true)
    (h : Comparison.order ignoreCase v w = .ok o) :
    Comparison.equal ignoreCase v w = .ok (o == .eq) := by
  cases w with
  | int n =>
    cases v with
    | int m =>
      rw [← Except.ok.inj h, compare_toInt_beq]
      rfl
    | float x =>
      rw [← Except.ok.inj h]
      rfl
    | _ => contradiction
  | float y =>
    cases v with
    | int _ | float _ =>
      rw [← Except.ok.inj h]
      rfl
    | _ => contradiction
  | string t =>
    cases v with
    | string s =>
      rw [← Except.ok.inj h, Comparison.equal, compare_text_beq]
    | _ => contradiction
  | _ => contradiction

/-- Only numbers are ordered with an integer, and only they can be equal to one. -/
theorem error_of_not_number (ignoreCase : Bool) (n : Int64)
    (hv : IndexKey.ofValue? .numeric v = none) :
    ∃ fault, Comparison.order ignoreCase v (.int n) = .error fault ∧
      Comparison.equal ignoreCase v (.int n) = .error fault := by
  cases v with
  | int m => contradiction
  | float x => contradiction
  | _ => exact ⟨_, rfl, rfl⟩

/-- What a comparison with an integer accepts is a number. -/
theorem number_of_comparison (hop : p.operator.isComparison = true) (hn : p.value1 = .int n)
    (htest : ev.test p v = .ok true) : ∃ k, IndexKey.ofValue? .numeric v = some k := by
  apply Option.ne_none_iff_exists'.1
  intro hnone
  obtain ⟨fault, horder, hequal⟩ := error_of_not_number p.ignoreCase n hnone
  unfold test at htest
  rw [hn] at htest
  rcases Operator.eq_of_isComparison hop with hp | hp | hp | hp | hp
  all_goals simp [hp, horder, hequal, bind, Except.bind] at htest

/-- What `BETWEEN` two integers accepts is a number. -/
theorem number_of_between {upper : Value} (hop : p.operator = .between) (hn : p.value1 = .int n)
    (hupper : p.value2 = some upper) (htest : ev.test p v = .ok true) :
    ∃ k, IndexKey.ofValue? .numeric v = some k := by
  apply Option.ne_none_iff_exists'.1
  intro hnone
  obtain ⟨fault, horder, _⟩ := error_of_not_number p.ignoreCase n hnone
  unfold test second at htest
  simp [hop, hn, hupper, Comparison.between, horder, bind, Except.bind] at htest

/-- A comparison asks for the order of the stored value and the operand. -/
theorem test_comparison (hop : p.operator.isComparison = true) (hw : p.value1.kind.isOrdered = true)
    (ho : Comparison.order p.ignoreCase v p.value1 = .ok o) :
    ev.test p v = .ok (p.operator.holds o) := by
  unfold test
  rcases Operator.eq_of_isComparison hop with hp | hp | hp | hp | hp
  · rw [hp]
    simp only [equal_of_order hw ho]
    rfl
  all_goals
    rw [hp]
    simp only [ho]
    rfl

/-- A comparison accepts a stored value if it holds of its order to the operand. -/
theorem evaluate_comparison (hop : p.operator.isComparison = true) (hn : p.value1 = .int n)
    (hv : r.resolve? p.field = some v)
    (ho : Comparison.order p.ignoreCase v (.int n) = .ok o) :
    ev.evaluate r (.leaf p) = .ok (p.operator.holds o) := by
  rw [← hn] at ho
  rw [accepts_of_resolve ev hv, test_comparison ev hop (by rw [hn]; rfl) ho]
  rfl

/-- `BETWEEN` accepts a stored value that is neither below the one operand nor above the other. -/
theorem evaluate_between (hop : p.operator = .between) {lower upper : Value}
    (hlower : p.value1 = lower) (hupper : p.value2 = some upper)
    (hv : r.resolve? p.field = some v) {below above : Ordering}
    (hbelow : Comparison.order p.ignoreCase v lower = .ok below)
    (habove : Comparison.order p.ignoreCase v upper = .ok above) :
    ev.evaluate r (.leaf p) = .ok (below != .lt && above != .gt) := by
  rw [accepts_of_resolve ev hv]
  unfold test second
  rw [hop, hlower, hupper]
  simp only [Comparison.between, bind, Except.bind, hbelow, habove]
  cases below <;> rfl

end Evaluator

end Quarry

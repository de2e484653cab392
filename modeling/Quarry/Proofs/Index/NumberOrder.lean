-- SUMMARY: Where a stored double stands among the integers, in an index and under evaluation.
import Quarry.Index.Key
import Quarry.Proofs.Number.Nearest

/-!
# Doubles among integers

The key of a finite double and the key of an integer are ordered by exact value. The total order of
doubles, with the integer rounded to a double, agrees with this but for two cases: a double that the
integer is rounded to, and -0 against 0.
-/

namespace Quarry

/-! ## Doubles that denote integers -/

namespace Binary64

variable {x : Binary64}

theorem mul_unitsPerOne_inj {m n : Int} (h : m * unitsPerOne = n * unitsPerOne) : m = n :=
  Int.eq_of_mul_eq_mul_right (Int.natCast_ne_zero.2 (Nat.ne_of_gt unitsPerOne_pos)) h

theorem mul_unitsPerOne_lt {m n : Int} : m * unitsPerOne < n * unitsPerOne ↔ m < n :=
  Int.mul_lt_mul_right (Int.natCast_pos.2 unitsPerOne_pos)

theorem compare_mul_unitsPerOne (m n : Int) :
    compare (m * unitsPerOne) (n * unitsPerOne) = compare m n := by
  rcases Int.lt_trichotomy m n with h | rfl | h
  · rw [Int.compare_eq_lt.2 h, Int.compare_eq_lt.2 (mul_unitsPerOne_lt.2 h)]
  · rw [Int.compare_eq_eq.2 rfl, Int.compare_eq_eq.2 rfl]
  · rw [Int.compare_eq_gt.2 h, Int.compare_eq_gt.2 (mul_unitsPerOne_lt.2 h)]

/-- A whole number of ones, with the sign of the double. -/
theorem exists_signedUnits_eq (h : unitsPerOne ∣ x.units) :
    ∃ m : Int, x.signedUnits = m * unitsPerOne := by
  obtain ⟨q, hq⟩ := h
  rw [signedUnits, hq, Nat.mul_comm, Int.natCast_mul]
  cases x.negative with
  | false => exact ⟨q, if_neg Bool.false_ne_true⟩
  | true =>
    refine ⟨-q, ?_⟩
    rw [if_pos rfl, Int.neg_mul]

theorem toInt?_eq_some_iff {m : Int} :
    x.toInt? = some m ↔ x.isFinite = true ∧ x.signedUnits = m * unitsPerOne := by
  have hvalue (h : unitsPerOne ∣ x.units) :
      (if x.negative then -((x.units / unitsPerOne : Nat) : Int)
        else (x.units / unitsPerOne : Nat)) * unitsPerOne = x.signedUnits := by
    have hmul : ((x.units / unitsPerOne : Nat) : Int) * unitsPerOne = x.units := by
      rw [← Int.natCast_mul, Nat.div_mul_cancel h]
    rw [signedUnits]
    cases x.negative with
    | false => exact hmul
    | true =>
      rw [if_pos rfl, if_pos rfl, Int.neg_mul, hmul]
  unfold toInt?
  constructor
  · intro h
    split at h
    · next hcond =>
      rw [Bool.and_eq_true, beq_iff_eq] at hcond
      rw [← Option.some.inj h]
      exact ⟨hcond.1, (hvalue (Nat.dvd_of_mod_eq_zero hcond.2)).symm⟩
    · contradiction
  · rintro ⟨hfinite, hm⟩
    have hdvd : unitsPerOne ∣ x.units := by
      have habs : x.signedUnits.natAbs = x.units := by
        unfold signedUnits
        split <;> simp
      rw [← habs, hm, Int.natAbs_mul, Int.natAbs_natCast]
      exact Nat.dvd_mul_left _ _
    have hcond : (x.isFinite && x.units % unitsPerOne == 0) = true := by
      rw [hfinite, Nat.mod_eq_zero_of_dvd hdvd]
      rfl
    rw [if_pos hcond]
    exact congrArg some (mul_unitsPerOne_inj ((hvalue hdvd).trans hm))

/-- The double nearest to a 64-bit integer is not below all 64-bit integers. -/
theorem le_signedUnits_ofInt64 (n : Int64) :
    (-(2 ^ 63) : Int) * unitsPerOne ≤ (ofInt64 n).signedUnits := by
  have hmin : (ofInt (-(2 ^ 63))).signedUnits = (-(2 ^ 63) : Int) * unitsPerOne := by
    decide +kernel
  rcases Int.lt_or_le (ofInt64 n).signedUnits ((-(2 ^ 63) : Int) * unitsPerOne) with hlt | hle
  · -- then it would be the double nearest to the least one, which is exact
    have hbelow := rank_le_rank_ofInt (isFinite_ofInt64 n) (Int.le_of_lt hlt)
    have habove : (ofInt (-(2 ^ 63))).rank ≤ (ofInt64 n).rank := rank_ofInt_mono n.le_toInt
    have heq := rank_injective (Int.le_antisymm hbelow habove)
    rw [heq, hmin] at hlt
    exact absurd hlt (Int.lt_irrefl _)
  · exact hle

/-- If an integer is rounded to a double below it, that double denotes a 64-bit integer. -/
theorem exists_int64_of_signedUnits_lt {n : Int64}
    (h : (ofInt64 n).signedUnits < n.toInt * unitsPerOne) :
    ∃ m : Int64, (ofInt64 n).signedUnits = m.toInt * unitsPerOne := by
  obtain ⟨m, hm⟩ := exists_signedUnits_eq (unitsPerOne_dvd_units_ofInt64 n)
  have hlo := le_signedUnits_ofInt64 n
  rw [hm] at h hlo
  have hmn : m < n.toInt := mul_unitsPerOne_lt.1 h
  have hmin : -(2 ^ 63) ≤ m := Int.not_lt.1 fun hlt =>
    absurd (mul_unitsPerOne_lt.2 hlt) (Int.not_lt.2 hlo)
  refine ⟨Int64.ofInt m, ?_⟩
  rw [hm, Int64.toInt_ofInt_of_le hmin (Int.lt_trans hmn n.toInt_lt)]

theorem totalCompare_negativeZero : negativeZero.totalCompare (ofInt64 0) = .lt := by
  decide +kernel

end Binary64

/-! ## Keys -/

namespace NumberKey

variable {x : Binary64}

/-- A double has the key of the 64-bit integer that it denotes, if it denotes one. -/
theorem ofFloat_cases (x : Binary64) :
    (∃ m : Int64, ofFloat x = .integer m ∧ x.isFinite = true ∧
      x.signedUnits = m.toInt * Binary64.unitsPerOne) ∨
    (ofFloat x = .float x ∧ (x.isFinite = true →
      ∀ m : Int64, x.signedUnits ≠ m.toInt * Binary64.unitsPerOne)) := by
  cases hint : x.toInt? with
  | none =>
    right
    refine ⟨by simp only [ofFloat, hint], ?_⟩
    intro hfinite m hm
    rw [Binary64.toInt?_eq_some_iff.2 ⟨hfinite, hm⟩] at hint
    contradiction
  | some n =>
    obtain ⟨hfinite, hn⟩ := Binary64.toInt?_eq_some_iff.1 hint
    by_cases hrange : -(2 ^ 63) ≤ n ∧ n < 2 ^ 63
    · left
      refine ⟨Int64.ofInt n, ?_, hfinite, ?_⟩
      · simp only [ofFloat, hint, if_pos hrange]
      · rw [hn, Int64.toInt_ofInt_of_le hrange.1 hrange.2]
    · right
      refine ⟨by simp only [ofFloat, hint, if_neg hrange], ?_⟩
      intro _ m hm
      rw [hn] at hm
      rw [Binary64.mul_unitsPerOne_inj hm] at hrange
      exact hrange ⟨m.le_toInt, m.toInt_lt⟩

theorem compare_integer (m n : Int64) :
    compare (integer m) (integer n) = compare m.toInt n.toInt := by
  rfl

theorem compare_float_integer (x : Binary64) (n : Int64) :
    compare (float x) (integer n) = (x.totalCompare (.ofInt64 n)).then .gt := by
  rfl

/-- The keys of a finite double and an integer are ordered by exact value. -/
theorem compare_ofFloat_integer (hx : x.isFinite = true) (n : Int64) :
    compare (ofFloat x) (integer n) =
      compare x.signedUnits (n.toInt * Binary64.unitsPerOne) := by
  rcases ofFloat_cases x with ⟨m, hkey, _, hm⟩ | ⟨hkey, hnot⟩
  · rw [hkey, compare_integer, hm, Binary64.compare_mul_unitsPerOne]
  · rw [hkey, compare_float_integer, Binary64.totalCompare]
    rcases Int.lt_trichotomy x.signedUnits (n.toInt * Binary64.unitsPerOne) with h | h | h
    · have hle : x.rank ≤ (Binary64.ofInt64 n).rank :=
        Binary64.rank_le_rank_ofInt hx (Int.le_of_lt h)
      have hne : x.rank ≠ (Binary64.ofInt64 n).rank := by
        intro heq
        obtain rfl := Binary64.rank_injective heq
        obtain ⟨m, hm⟩ := Binary64.exists_int64_of_signedUnits_lt h
        exact hnot hx m hm
      rw [Int.compare_eq_lt.2 (Int.lt_iff_le_and_ne.2 ⟨hle, hne⟩), Int.compare_eq_lt.2 h,
        Ordering.lt_then]
    · exact absurd h (hnot hx n)
    · have hzero : ¬ (x = Binary64.negativeZero ∧ n.toInt = 0) := by
        rintro ⟨rfl, _⟩
        exact hnot hx 0 (by decide +kernel)
      have hge : (Binary64.ofInt64 n).rank ≤ x.rank :=
        Binary64.rank_ofInt_le_rank hx (Int.le_of_lt h) hzero
      rw [Int.compare_eq_gt.2 h]
      rcases Int.lt_or_eq_of_le hge with hlt | heq
      · rw [Int.compare_eq_gt.2 hlt, Ordering.gt_then]
      · rw [Int.compare_eq_eq.2 heq.symm, Ordering.eq_then]

/-- Comparing a double with an integer rounded to a double is comparing their keys, unless it is the
    double that the integer is rounded to, or they are -0 and 0. -/
theorem totalCompare_ofInt64 {n : Int64} (hne : x ≠ .ofInt64 n)
    (hzero : ¬ (x = Binary64.negativeZero ∧ n = 0)) :
    x.totalCompare (.ofInt64 n) = compare (ofFloat x) (integer n) := by
  have hrank : x.rank ≠ (Binary64.ofInt64 n).rank := fun h => hne (Binary64.rank_injective h)
  have hzero' : ¬ (x = Binary64.negativeZero ∧ n.toInt = 0) := fun h =>
    hzero ⟨h.1, Int64.toInt_inj.1 h.2⟩
  cases hx : x.isFinite with
  | false =>
    rcases ofFloat_cases x with ⟨m, _, hfinite, _⟩ | ⟨hkey, _⟩
    · rw [hx] at hfinite
      contradiction
    · rw [hkey, compare_float_integer, Binary64.totalCompare]
      rcases Int.lt_or_gt_of_ne hrank with hlt | hgt
      · rw [Int.compare_eq_lt.2 hlt, Ordering.lt_then]
      · rw [Int.compare_eq_gt.2 hgt, Ordering.gt_then]
  | true =>
    rw [compare_ofFloat_integer hx, Binary64.totalCompare]
    rcases Int.lt_trichotomy x.signedUnits (n.toInt * Binary64.unitsPerOne) with h | h | h
    · have hle : x.rank ≤ (Binary64.ofInt64 n).rank :=
        Binary64.rank_le_rank_ofInt hx (Int.le_of_lt h)
      rw [Int.compare_eq_lt.2 h, Int.compare_eq_lt.2 (Int.lt_iff_le_and_ne.2 ⟨hle, hrank⟩)]
    · have hle : x.rank ≤ (Binary64.ofInt64 n).rank :=
        Binary64.rank_le_rank_ofInt hx (Int.le_of_eq h)
      have hge : (Binary64.ofInt64 n).rank ≤ x.rank :=
        Binary64.rank_ofInt_le_rank hx (Int.le_of_eq h.symm) hzero'
      exact absurd (Int.le_antisymm hle hge) hrank
    · have hge : (Binary64.ofInt64 n).rank ≤ x.rank :=
        Binary64.rank_ofInt_le_rank hx (Int.le_of_lt h) hzero'
      rw [Int.compare_eq_gt.2 h, Int.compare_eq_gt.2 (Int.lt_iff_le_and_ne.2 ⟨hge, hrank.symm⟩)]

end NumberKey

end Quarry

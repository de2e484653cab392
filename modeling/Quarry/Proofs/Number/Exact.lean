-- SUMMARY: The rational number that a finite double denotes, and the order of doubles by it.
import Mathlib.Algebra.Order.Field.Rat
import Mathlib.Tactic.FieldSimp
import Mathlib.Tactic.Ring
import Quarry.Proofs.Number.Nearest

/-!
# Exact values of doubles

A finite double denotes a rational number, given by its sign, its exponent and its fraction. It is the
signed number of units, divided by the number of units that make one, so doubles can be compared by
integers. The total order of all doubles keeps the order of the numbers denoted, and only the two zeros
denote one number.
-/

namespace Quarry.Binary64

/-! ## Numbers denoted -/

/-- The absolute value of a finite double. A number in the normal range has a leading one before its
    fraction; below that range the exponent stays at the least one and the leading digit is zero. -/
def absoluteValue (x : Binary64) : ℚ :=
  let exponent : ℕ := x.magnitude / 2 ^ 52
  let fraction : ℚ := (x.magnitude % 2 ^ 52 : ℕ) / (2 ^ 52 : ℕ)
  if exponent = 0 then fraction * (2 : ℚ) ^ (-1022 : ℤ)
  else (1 + fraction) * (2 : ℚ) ^ ((exponent : ℤ) - 1023)

/-- The number that a finite double denotes. -/
def value (x : Binary64) : ℚ :=
  if x.negative then -x.absoluteValue else x.absoluteValue

theorem cast_two_pow (n : ℕ) : ((2 ^ n : ℕ) : ℚ) = (2 : ℚ) ^ (n : ℤ) := by
  rw [Nat.cast_pow, Nat.cast_ofNat, zpow_natCast]

theorem cast_unitsPerOne : (unitsPerOne : ℚ) = (2 : ℚ) ^ ((1074 : ℕ) : ℤ) := by
  unfold unitsPerOne
  exact cast_two_pow 1074

/-- The absolute value counted in units. -/
theorem absoluteValue_mul (x : Binary64) : x.absoluteValue * unitsPerOne = x.units := by
  unfold absoluteValue
  dsimp only
  rw [cast_unitsPerOne]
  split
  · next h =>
    have hlt : x.magnitude < 2 ^ 52 := by omega
    rw [units_of_lt hlt, Nat.mod_eq_of_lt hlt, mul_assoc, ← zpow_add₀ two_ne_zero]
    norm_num
  · next h =>
    have hle : 2 ^ 52 ≤ x.magnitude := by omega
    have hexponent : ((x.magnitude / 2 ^ 52 : ℕ) : ℤ) - 1023 + (1074 : ℕ) =
        (52 : ℕ) + (x.magnitude / 2 ^ 52 - 1 : ℕ) := by omega
    rw [units_of_le hle, mul_assoc, ← zpow_add₀ two_ne_zero, hexponent, zpow_add₀ two_ne_zero,
      zpow_natCast, zpow_natCast]
    generalize x.magnitude % 2 ^ 52 = fraction
    rw [Nat.cast_mul, Nat.cast_add, Nat.cast_pow, Nat.cast_pow, Nat.cast_ofNat]
    field_simp

/-- The value counted in units. -/
theorem value_mul (x : Binary64) : x.value * unitsPerOne = x.signedUnits := by
  unfold value signedUnits
  cases x.negative with
  | false => exact absoluteValue_mul x
  | true =>
    rw [if_pos rfl, if_pos rfl, neg_mul, absoluteValue_mul]
    push_cast
    rfl

/-! ## Order -/

variable {x y : Binary64}

theorem units_eq_of_magnitude_eq (h : x.magnitude = y.magnitude) : x.units = y.units := by
  unfold units significand scale
  rw [h]

/-- A double with fewer units has a smaller magnitude. -/
theorem magnitude_lt_magnitude (h : x.units < y.units) : x.magnitude < y.magnitude := by
  have hle := placeOfUnits_mono (Nat.le_of_lt h)
  rw [placeOfUnits_units, placeOfUnits_units] at hle
  exact Nat.lt_of_le_of_ne hle fun heq => Nat.ne_of_lt h (units_eq_of_magnitude_eq heq)

/-- If a size of doubles tells magnitudes apart, then the size with the sign tells ranks apart. -/
theorem rank_lt_rank_of_signed {f : Binary64 → ℤ} (hnonneg : ∀ x, 0 ≤ f x)
    (hf : ∀ {x y}, f x < f y → x.magnitude < y.magnitude)
    (h : (if x.negative then -f x else f x) < if y.negative then -f y else f y) : x.rank < y.rank := by
  have hx0 := hnonneg x
  have hy0 := hnonneg y
  cases hx : x.negative with
  | false =>
    rw [hx, if_neg Bool.false_ne_true] at h
    rw [rank_of_not_negative hx]
    cases hy : y.negative with
    | false =>
      rw [hy, if_neg Bool.false_ne_true] at h
      rw [rank_of_not_negative hy]
      exact Int.ofNat_lt.2 (hf h)
    | true =>
      rw [hy, if_pos rfl] at h
      omega
  | true =>
    rw [hx, if_pos rfl] at h
    rw [rank_of_negative hx]
    cases hy : y.negative with
    | false =>
      rw [rank_of_not_negative hy]
      omega
    | true =>
      rw [hy, if_pos rfl] at h
      rw [rank_of_negative hy]
      have hlt := hf (neg_lt_neg_iff.1 h)
      omega

/-- A double that denotes a smaller number comes first. -/
theorem rank_lt_rank (h : x.signedUnits < y.signedUnits) : x.rank < y.rank :=
  rank_lt_rank_of_signed (f := fun x => x.units) (fun _ => Int.natCast_nonneg _)
    (fun hlt => magnitude_lt_magnitude (Int.ofNat_lt.1 hlt)) h

/-- Only the two zeros denote the same number. -/
theorem eq_of_signedUnits_eq (h : x.signedUnits = y.signedUnits) (hzero : x.signedUnits ≠ 0) :
    x = y := by
  have hmagnitude (hunits : x.units = y.units) : x.magnitude = y.magnitude := by
    rw [← placeOfUnits_units x, hunits, placeOfUnits_units]
  cases hx : x.negative with
  | false =>
    rw [signedUnits_of_not_negative hx] at h hzero
    cases hy : y.negative with
    | false =>
      rw [signedUnits_of_not_negative hy] at h
      exact ext_parts (hx.trans hy.symm) (hmagnitude (Int.ofNat_inj.1 h))
    | true =>
      rw [signedUnits_of_negative hy] at h
      omega
  | true =>
    rw [signedUnits_of_negative hx] at h hzero
    cases hy : y.negative with
    | false =>
      rw [signedUnits_of_not_negative hy] at h
      omega
    | true =>
      rw [signedUnits_of_negative hy] at h
      exact ext_parts (hx.trans hy.symm) (hmagnitude (Int.ofNat_inj.1 (Int.neg_inj.1 h)))

/-- The total order is that of the numbers denoted, if they are not both zero. -/
theorem totalCompare_eq (hzero : x.signedUnits ≠ 0) :
    x.totalCompare y = compare x.signedUnits y.signedUnits := by
  unfold totalCompare
  rcases Int.lt_trichotomy x.signedUnits y.signedUnits with h | h | h
  · rw [Int.compare_eq_lt.2 h, Int.compare_eq_lt.2 (rank_lt_rank h)]
  · rw [Int.compare_eq_eq.2 h, Int.compare_eq_eq.2 (congrArg rank (eq_of_signedUnits_eq h hzero))]
  · rw [Int.compare_eq_gt.2 h, Int.compare_eq_gt.2 (rank_lt_rank h)]

/-! ## Zones -/

/-- How far beyond the numbers a double lies: infinities at 1, and NaNs at 2. -/
def beyond (x : Binary64) : ℤ :=
  if x.isFinite then 0 else if x.isNaN then 2 else 1

/-- Where a double lies: NaNs with the sign bit at -2, minus infinity at -1, the numbers at 0,
    infinity at 1, and the other NaNs at 2. -/
def zone (x : Binary64) : ℤ :=
  if x.negative then -x.beyond else x.beyond

theorem beyond_nonneg (x : Binary64) : 0 ≤ x.beyond := by
  unfold beyond
  split
  · decide
  · split <;> decide

/-- A double that lies farther out has a greater magnitude. -/
theorem magnitude_lt_of_beyond_lt (h : x.beyond < y.beyond) : x.magnitude < y.magnitude := by
  unfold beyond isFinite isNaN at h
  simp only [decide_eq_true_eq] at h
  split at h
  · split at h <;> omega
  · split at h <;> split at h <;> omega

/-- The total order goes from zone to zone. -/
theorem rank_lt_rank_of_zone_lt (h : x.zone < y.zone) : x.rank < y.rank :=
  rank_lt_rank_of_signed beyond_nonneg magnitude_lt_of_beyond_lt h

end Quarry.Binary64

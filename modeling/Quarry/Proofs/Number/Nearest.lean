-- SUMMARY: The exact value of the double nearest to an integer, and its place among all doubles.
import Quarry.Number.Rounding

/-!
# Doubles nearest to integers

Rounding keeps the order of exact values, so a finite double below an integer is not above the double
nearest to it, and the other way round; the only exception is -0, which comes before the double
nearest to 0. The double nearest to a 64-bit integer is finite and denotes an integer.
-/

namespace Quarry.Binary64

/-- The zero with the sign bit set. -/
def negativeZero : Binary64 :=
  ofMagnitude true 0

/-! ## Order -/

section Order

variable {x : Binary64}

theorem magnitude_le_nearestMagnitude {n : Nat} (hx : x.isFinite = true)
    (h : x.units ≤ n * unitsPerOne) : x.magnitude ≤ nearestMagnitude n 1 := by
  have hplace := placeOfUnits_mono h
  have hlt : x.magnitude < infiniteMagnitude := by simpa [isFinite] using hx
  rw [placeOfUnits_units] at hplace
  rw [nearestMagnitude_one]
  exact Nat.le_min.2 ⟨hplace, Nat.le_of_lt hlt⟩

theorem nearestMagnitude_le_magnitude {n : Nat} (h : n * unitsPerOne ≤ x.units) :
    nearestMagnitude n 1 ≤ x.magnitude := by
  have hplace := placeOfUnits_mono h
  rw [placeOfUnits_units] at hplace
  rw [nearestMagnitude_one]
  exact Nat.le_trans (Nat.min_le_left _ _) hplace

theorem signedUnits_of_negative (h : x.negative = true) : x.signedUnits = -(x.units : Int) := by
  rw [signedUnits, if_pos h]

theorem signedUnits_of_not_negative (h : x.negative = false) : x.signedUnits = x.units := by
  rw [signedUnits, if_neg (by simp [h])]

theorem rank_of_negative (h : x.negative = true) : x.rank = -(x.magnitude : Int) - 1 := by
  rw [rank, if_pos h]

theorem rank_of_not_negative (h : x.negative = false) : x.rank = x.magnitude := by
  rw [rank, if_neg (by simp [h])]

theorem natAbs_mul_unitsPerOne_of_nonneg {n : Int} (h : 0 ≤ n) :
    ((n.natAbs * unitsPerOne : Nat) : Int) = n * unitsPerOne := by
  rw [Int.natCast_mul, Int.natAbs_of_nonneg h]

theorem natAbs_mul_unitsPerOne_of_neg {n : Int} (h : n < 0) :
    ((n.natAbs * unitsPerOne : Nat) : Int) = -(n * unitsPerOne) := by
  rw [Int.natCast_mul, Int.ofNat_natAbs_of_nonpos (Int.le_of_lt h), Int.neg_mul]

theorem mul_unitsPerOne_neg {n : Int} (h : n < 0) : n * unitsPerOne < 0 :=
  Int.mul_neg_of_neg_of_pos h (Int.natCast_pos.2 unitsPerOne_pos)

theorem mul_unitsPerOne_nonneg {n : Int} (h : 0 ≤ n) : 0 ≤ n * unitsPerOne :=
  Int.mul_nonneg h (Int.natCast_nonneg _)

/-- A finite double that is at most an integer is at most the double nearest to it. -/
theorem rank_le_rank_ofInt {n : Int} (hx : x.isFinite = true)
    (h : x.signedUnits ≤ n * unitsPerOne) : x.rank ≤ (ofInt n).rank := by
  rw [rank_ofInt]
  cases hneg : x.negative with
  | false =>
    rw [signedUnits_of_not_negative hneg] at h
    rw [rank_of_not_negative hneg]
    have hn : ¬ n < 0 := fun hn => absurd (mul_unitsPerOne_neg hn) (by omega)
    rw [if_neg hn]
    rw [← natAbs_mul_unitsPerOne_of_nonneg (Int.not_lt.1 hn)] at h
    have hm := magnitude_le_nearestMagnitude hx (Int.ofNat_le.1 h)
    omega
  | true =>
    rw [signedUnits_of_negative hneg] at h
    rw [rank_of_negative hneg]
    by_cases hn : n < 0
    · rw [if_pos hn]
      have hunits := natAbs_mul_unitsPerOne_of_neg hn
      have hm := nearestMagnitude_le_magnitude (Int.ofNat_le.1 (by omega :
        ((n.natAbs * unitsPerOne : Nat) : Int) ≤ x.units))
      omega
    · rw [if_neg hn]
      omega

theorem eq_negativeZero (hneg : x.negative = true) (hm : x.magnitude = 0) : x = negativeZero :=
  ext_parts (hneg.trans (negative_ofMagnitude true (by decide)).symm)
    (hm.trans (magnitude_ofMagnitude true (by decide)).symm)

theorem magnitude_eq_zero_of_units (h : x.units = 0) : x.magnitude = 0 := by
  rw [← placeOfUnits_units x, h]
  rfl

/-- A double that is at least an integer is at least the double nearest to it, but for -0. -/
theorem rank_ofInt_le_rank {n : Int} (hx : x.isFinite = true)
    (h : n * unitsPerOne ≤ x.signedUnits) (hzero : ¬ (x = negativeZero ∧ n = 0)) :
    (ofInt n).rank ≤ x.rank := by
  rw [rank_ofInt]
  cases hneg : x.negative with
  | false =>
    rw [signedUnits_of_not_negative hneg] at h
    rw [rank_of_not_negative hneg]
    by_cases hn : n < 0
    · rw [if_pos hn]
      omega
    · rw [if_neg hn]
      rw [← natAbs_mul_unitsPerOne_of_nonneg (Int.not_lt.1 hn)] at h
      have hm := nearestMagnitude_le_magnitude (Int.ofNat_le.1 h)
      omega
  | true =>
    rw [signedUnits_of_negative hneg] at h
    rw [rank_of_negative hneg]
    by_cases hn : n < 0
    · rw [if_pos hn]
      have hunits := natAbs_mul_unitsPerOne_of_neg hn
      have hm := magnitude_le_nearestMagnitude hx (Int.ofNat_le.1 (by omega :
        (x.units : Int) ≤ (n.natAbs * unitsPerOne : Nat)))
      omega
    · -- a negative number that is not below an integer from 0 on is -0, and the integer is 0
      have hprod := mul_unitsPerOne_nonneg (Int.not_lt.1 hn)
      have hm := magnitude_eq_zero_of_units (x := x) (by omega)
      have hprod0 : n * unitsPerOne = 0 := by omega
      have hn0 : n = 0 := (Int.mul_eq_zero.1 hprod0).resolve_right
        (Int.ofNat_ne_zero.2 (Nat.ne_of_gt unitsPerOne_pos))
      exact absurd ⟨eq_negativeZero hneg hm, hn0⟩ hzero

end Order

/-! ## Exact value -/

theorem units_of_magnitude_lt {x : Binary64} (h : x.magnitude < 2 ^ 53) : x.units = x.magnitude := by
  rcases Nat.lt_or_ge x.magnitude (2 ^ 52) with hlt | hge
  · exact units_of_lt hlt
  · have hexp : x.magnitude / 2 ^ 52 = 1 := by omega
    rw [units_of_le hge, hexp]
    omega

/-- The value of a double with a significand from `2 ^ 52` up to `2 ^ 53`, the next power of two
    included. -/
theorem units_of_magnitude_eq {x : Binary64} {q s : Nat} (h : x.magnitude = q + s * 2 ^ 52)
    (hlo : 2 ^ 52 ≤ q) (hhi : q ≤ 2 ^ 53) : x.units = q * 2 ^ s := by
  rcases Nat.lt_or_eq_of_le hhi with hlt | rfl
  · have hexp : x.magnitude / 2 ^ 52 = s + 1 := by omega
    have hmod : x.magnitude % 2 ^ 52 = q - 2 ^ 52 := by omega
    rw [units_of_le (by omega), hexp, hmod, Nat.add_sub_cancel, Nat.add_sub_cancel' hlo]
  · have hexp : x.magnitude / 2 ^ 52 = s + 2 := by omega
    have hmod : x.magnitude % 2 ^ 52 = 0 := by omega
    rw [units_of_le (by omega), hexp, hmod, Nat.add_zero, ← Nat.pow_add, ← Nat.pow_add]
    congr 1
    omega

/-- The value of a double that a number of units is rounded to. -/
theorem units_of_magnitude_eq_placeOfUnits {x : Binary64} {u : Nat}
    (h : x.magnitude = placeOfUnits u) :
    x.units = roundHalfEven u (2 ^ (u.log2 - 52)) * 2 ^ (u.log2 - 52) := by
  have hlt := div_two_pow_lt u
  have hround := roundHalfEven_le u (2 ^ (u.log2 - 52))
  unfold placeOfUnits at h
  rcases Nat.lt_or_ge 52 u.log2 with hlog | hlog
  · have hle := le_div_two_pow hlog
    have hfloor := div_le_roundHalfEven u (2 ^ (u.log2 - 52))
    exact units_of_magnitude_eq h (by omega) (by omega)
  · -- the number of units has 53 bits at most and is not rounded
    rw [Nat.sub_eq_zero_of_le hlog, Nat.pow_zero, roundHalfEven_one] at h ⊢
    rw [Nat.sub_eq_zero_of_le hlog, Nat.pow_zero, Nat.div_one] at hlt
    rw [units_of_magnitude_lt (by omega), h, Nat.zero_mul, Nat.add_zero, Nat.mul_one]

theorem two_pow_mul_unitsPerOne (k : Nat) : 2 ^ k * unitsPerOne = 2 ^ (k + 1074) := by
  rw [Nat.pow_add]
  rfl

theorem unitsPerOne_eq_mul {s : Nat} (h : s ≤ 1074) : unitsPerOne = 2 ^ (1074 - s) * 2 ^ s := by
  rw [← Nat.pow_add, Nat.sub_add_cancel h]
  rfl

/-- Rounding a whole number of ones leaves a whole number of ones. -/
theorem unitsPerOne_dvd_of_magnitude_eq_placeOfUnits {x : Binary64} {n : Nat}
    (h : x.magnitude = placeOfUnits (n * unitsPerOne)) : unitsPerOne ∣ x.units := by
  rw [units_of_magnitude_eq_placeOfUnits h]
  generalize (n * unitsPerOne).log2 - 52 = s
  rcases Nat.lt_or_ge s 1074 with hlt | hge
  · -- the scale divides the number, which is not rounded then
    have hsplit : n * unitsPerOne = n * 2 ^ (1074 - s) * 2 ^ s := by
      rw [Nat.mul_assoc, ← unitsPerOne_eq_mul (Nat.le_of_lt hlt)]
    rw [hsplit, roundHalfEven_mul_right _ (Nat.two_pow_pos s), ← hsplit]
    exact Nat.dvd_mul_left _ _
  · have hpow : 2 ^ s = 2 ^ (s - 1074) * unitsPerOne := by
      rw [two_pow_mul_unitsPerOne, Nat.sub_add_cancel hge]
    rw [hpow, ← Nat.mul_assoc]
    exact Nat.dvd_mul_left _ _

/-! ## 64-bit integers -/

theorem log2_mul_unitsPerOne_le {n k : Nat} (h : n ≤ 2 ^ k) :
    (n * unitsPerOne).log2 ≤ k + 1074 := by
  have hlog := log2_le_log2 (Nat.mul_le_mul_right unitsPerOne h)
  rwa [two_pow_mul_unitsPerOne, Nat.log2_two_pow] at hlog

theorem placeOfUnits_lt_infiniteMagnitude {n : Nat} (h : n ≤ 2 ^ 63) :
    placeOfUnits (n * unitsPerOne) < infiniteMagnitude := by
  have hlog := log2_mul_unitsPerOne_le h
  have hplace := placeOfUnits_le (n * unitsPerOne)
  unfold infiniteMagnitude
  omega

theorem natAbs_toInt_le (n : Int64) : n.toInt.natAbs ≤ 2 ^ 63 := by
  have hlo := n.le_toInt
  have hhi := n.toInt_lt
  omega

theorem magnitude_ofInt64 (n : Int64) :
    (ofInt64 n).magnitude = placeOfUnits (n.toInt.natAbs * unitsPerOne) := by
  have hlt := placeOfUnits_lt_infiniteMagnitude (natAbs_toInt_le n)
  unfold ofInt64 ofInt ofRatio
  rw [magnitude_ofMagnitude _ (nearestMagnitude_lt _), nearestMagnitude_one]
  exact Nat.min_eq_left (Nat.le_of_lt hlt)

theorem isFinite_ofInt64 (n : Int64) : (ofInt64 n).isFinite = true := by
  have hlt := placeOfUnits_lt_infiniteMagnitude (natAbs_toInt_le n)
  unfold isFinite
  rw [magnitude_ofInt64, decide_eq_true_eq]
  exact hlt

theorem unitsPerOne_dvd_units_ofInt64 (n : Int64) : unitsPerOne ∣ (ofInt64 n).units :=
  unitsPerOne_dvd_of_magnitude_eq_placeOfUnits (magnitude_ofInt64 n)

end Quarry.Binary64

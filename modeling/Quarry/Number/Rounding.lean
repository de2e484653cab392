-- SUMMARY: The double nearest to a ratio, an integer or a decimal.
import Quarry.Number.Binary64

/-!
# Rounding to double precision

The nearest double to an exact number, a tie going to the even significand, and infinity when the
number lies beyond the largest double by half a step or more.
-/

namespace Quarry

/-- The integer nearest to `num / den`, the even one of two that are equally near. -/
def roundHalfEven (num den : Nat) : Nat :=
  let quotient := num / den
  let rest := 2 * (num % den)
  if rest < den then quotient
  else if den < rest then quotient + 1
  else quotient + quotient % 2

theorem div_le_roundHalfEven (num den : Nat) : num / den ≤ roundHalfEven num den := by
  unfold roundHalfEven
  dsimp only
  split
  · exact Nat.le_refl _
  · split <;> omega

theorem roundHalfEven_le (num den : Nat) : roundHalfEven num den ≤ num / den + 1 := by
  unfold roundHalfEven
  dsimp only
  split
  · omega
  · split <;> omega

/-- Rounding keeps the order of what is rounded. -/
theorem roundHalfEven_mono {a b : Nat} (den : Nat) (h : a ≤ b) :
    roundHalfEven a den ≤ roundHalfEven b den := by
  have hdiv : a / den ≤ b / den := Nat.div_le_div_right h
  rcases Nat.lt_or_ge (a / den) (b / den) with hlt | hge
  · have ha := roundHalfEven_le a den
    have hb := div_le_roundHalfEven b den
    omega
  · -- the quotients are equal, so the rests decide
    have hq : a / den = b / den := Nat.le_antisymm hdiv hge
    have hrest : a % den ≤ b % den := by
      have hA := Nat.div_add_mod a den
      have hB := Nat.div_add_mod b den
      rw [hq] at hA
      omega
    unfold roundHalfEven
    dsimp only
    rw [hq]
    split <;> split <;> (try split) <;> (try split) <;> omega

theorem roundHalfEven_mul_right {den : Nat} (n : Nat) (h : 0 < den) :
    roundHalfEven (n * den) den = n := by
  unfold roundHalfEven
  simp [Nat.mul_div_cancel n h, h]

theorem roundHalfEven_one (n : Nat) : roundHalfEven n 1 = n := by
  have h := roundHalfEven_mul_right n Nat.one_pos
  rwa [Nat.mul_one] at h

namespace Binary64

/-- The magnitude of the double nearest to `num / den`.

    In units of the smallest double the number is `num * 2 ^ 1074 / den`. The scale leaves 53 bits
    before the point, or none is dropped when there are fewer. A significand that rounds up to
    `2 ^ 53` carries into the exponent, as it should. -/
def nearestMagnitude (num den : Nat) : Nat :=
  let units := num * unitsPerOne
  let scale := (units / den).log2 - 52
  let magnitude := roundHalfEven units (den * 2 ^ scale) + scale * 2 ^ 52
  if magnitude < infiniteMagnitude then magnitude else infiniteMagnitude

/-- The double nearest to `num / den`, with the given sign. -/
def ofRatio (negative : Bool) (num den : Nat) : Binary64 :=
  ofMagnitude negative (nearestMagnitude num den)

/-- The double nearest to an integer. -/
def ofInt (n : Int) : Binary64 :=
  ofRatio (n < 0) n.natAbs 1

/-- The double nearest to a 64-bit integer. -/
def ofInt64 (n : Int64) : Binary64 :=
  ofInt n.toInt

/-! ## Places of exact numbers -/

/-- The magnitude nearest to a number of units, were there no largest one. -/
def placeOfUnits (units : Nat) : Nat :=
  roundHalfEven units (2 ^ (units.log2 - 52)) + (units.log2 - 52) * 2 ^ 52

theorem nearestMagnitude_one (num : Nat) :
    nearestMagnitude num 1 = min (placeOfUnits (num * unitsPerOne)) infiniteMagnitude := by
  unfold nearestMagnitude placeOfUnits
  simp only [Nat.div_one, Nat.one_mul]
  split <;> omega

/-- At most 53 bits stand before the point. -/
theorem div_two_pow_lt (units : Nat) : units / 2 ^ (units.log2 - 52) < 2 ^ 53 := by
  rw [Nat.div_lt_iff_lt_mul (Nat.two_pow_pos _), ← Nat.pow_add]
  exact Nat.lt_of_lt_of_le Nat.lt_log2_self (Nat.pow_le_pow_right (by decide) (by omega))

/-- If bits are dropped, 53 bits stand before the point. -/
theorem le_div_two_pow {units : Nat} (h : 52 < units.log2) :
    2 ^ 52 ≤ units / 2 ^ (units.log2 - 52) := by
  have hne : units ≠ 0 := by
    rintro rfl
    simp at h
  rw [Nat.le_div_iff_mul_le (Nat.two_pow_pos _), ← Nat.pow_add]
  exact Nat.le_trans (Nat.pow_le_pow_right (by decide) (by omega)) (Nat.log2_self_le hne)

theorem placeOfUnits_le (units : Nat) : placeOfUnits units ≤ (units.log2 - 52 + 2) * 2 ^ 52 := by
  have hlt := div_two_pow_lt units
  have hround := roundHalfEven_le units (2 ^ (units.log2 - 52))
  unfold placeOfUnits
  omega

theorem le_placeOfUnits {units : Nat} (h : 52 < units.log2) :
    (units.log2 - 52 + 1) * 2 ^ 52 ≤ placeOfUnits units := by
  have hle := le_div_two_pow h
  have hround := div_le_roundHalfEven units (2 ^ (units.log2 - 52))
  unfold placeOfUnits
  omega

theorem log2_le_log2 {a b : Nat} (h : a ≤ b) : a.log2 ≤ b.log2 := by
  rcases Nat.eq_zero_or_pos a with rfl | ha
  · simp
  · exact (Nat.le_log2 (by omega)).2 (Nat.le_trans (Nat.log2_self_le (by omega)) h)

theorem placeOfUnits_mono {a b : Nat} (h : a ≤ b) : placeOfUnits a ≤ placeOfUnits b := by
  have hlog := log2_le_log2 h
  rcases Nat.lt_or_ge (a.log2 - 52) (b.log2 - 52) with hlt | hge
  · -- a power of two lies between them
    calc placeOfUnits a ≤ (a.log2 - 52 + 2) * 2 ^ 52 := placeOfUnits_le a
      _ ≤ (b.log2 - 52 + 1) * 2 ^ 52 := Nat.mul_le_mul_right _ (by omega)
      _ ≤ placeOfUnits b := le_placeOfUnits (by omega)
  · have hscale : a.log2 - 52 = b.log2 - 52 := by omega
    unfold placeOfUnits
    rw [hscale]
    exact Nat.add_le_add_right (roundHalfEven_mono _ h) _

theorem log2_mul_two_pow {m : Nat} (scale : Nat) (hlo : 2 ^ 52 ≤ m) (hhi : m < 2 ^ 53) :
    (m * 2 ^ scale).log2 = 52 + scale := by
  have hpos : 0 < 2 ^ scale := Nat.two_pow_pos scale
  refine (Nat.log2_eq_iff (Nat.mul_ne_zero (by omega) (by omega))).2 ⟨?_, ?_⟩
  · rw [Nat.pow_add]
    exact Nat.mul_le_mul_right _ hlo
  · rw [Nat.add_right_comm, Nat.pow_add]
    exact Nat.mul_lt_mul_of_pos_right hhi hpos

/-- A double is its own rounding. -/
theorem placeOfUnits_units (x : Binary64) : placeOfUnits x.units = x.magnitude := by
  rcases Nat.lt_or_ge x.magnitude (2 ^ 52) with h | h
  · have hlog : x.magnitude.log2 - 52 = 0 := by
      rcases Nat.eq_zero_or_pos x.magnitude with h0 | h0
      · simp [h0]
      · have hlt := (Nat.log2_lt (by omega)).2 h
        omega
    simp [units_of_lt h, placeOfUnits, hlog, roundHalfEven_one]
  · have hmod := Nat.mod_lt x.magnitude (Nat.two_pow_pos 52)
    have hdm := Nat.div_add_mod x.magnitude (2 ^ 52)
    have hdiv : 1 ≤ x.magnitude / 2 ^ 52 :=
      (Nat.le_div_iff_mul_le (Nat.two_pow_pos 52)).2 (by omega)
    rw [units_of_le h]
    unfold placeOfUnits
    rw [log2_mul_two_pow _ (by omega) (by omega), Nat.add_sub_cancel_left,
      roundHalfEven_mul_right _ (Nat.two_pow_pos _)]
    omega

/-! ## Order of rounded integers -/

theorem nearestMagnitude_lt (num : Nat) : nearestMagnitude num 1 < 2 ^ 63 := by
  rw [nearestMagnitude_one]
  exact Nat.lt_of_le_of_lt (Nat.min_le_right _ _) (by decide)

theorem nearestMagnitude_mono {m n : Nat} (h : m ≤ n) :
    nearestMagnitude m 1 ≤ nearestMagnitude n 1 := by
  have hplace := placeOfUnits_mono (Nat.mul_le_mul_right unitsPerOne h)
  rw [nearestMagnitude_one, nearestMagnitude_one]
  omega

theorem rank_ofInt (n : Int) :
    (ofInt n).rank =
      if n < 0 then -(nearestMagnitude n.natAbs 1 : Int) - 1 else nearestMagnitude n.natAbs 1 := by
  have hlt := nearestMagnitude_lt n.natAbs
  unfold ofInt ofRatio rank
  rw [negative_ofMagnitude _ hlt, magnitude_ofMagnitude _ hlt]
  simp only [decide_eq_true_eq]

/-- Rounding keeps the order of integers. -/
theorem rank_ofInt_mono {m n : Int} (h : m ≤ n) : (ofInt m).rank ≤ (ofInt n).rank := by
  rw [rank_ofInt, rank_ofInt]
  split <;> split
  · have hm := nearestMagnitude_mono (show n.natAbs ≤ m.natAbs by omega)
    omega
  · omega
  · omega
  · have hm := nearestMagnitude_mono (show m.natAbs ≤ n.natAbs by omega)
    omega

end Binary64

end Quarry

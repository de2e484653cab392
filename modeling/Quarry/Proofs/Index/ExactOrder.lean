-- SUMMARY: The order of an index of numbers is the order of the numbers that are stored.
import Quarry.Proofs.Index.NumberOrder
import Quarry.Proofs.Number.Exact

/-!
# The exact order of an index of numbers

Integers and finite doubles have keys in the order of the numbers that they denote, and have one key just
if they denote one number. An integer is rounded before it is compared with a double. But a double that is
still a double in its key denotes no 64-bit integer, so rounding cannot carry the integer past it. The
infinities enclose all numbers, and the NaNs enclose the infinities. Over all keys, also those that no
value has, the order is total.
-/

namespace Quarry

/-! ## Keys of doubles -/

namespace NumberKey

variable {x y : Binary64}

theorem signedUnits_ne_zero (hx : x.isFinite = true)
    (h : x.isFinite = true → ∀ m : Int64, x.signedUnits ≠ m.toInt * Binary64.unitsPerOne) :
    x.signedUnits ≠ 0 := by
  intro hzero
  refine h hx 0 ?_
  rw [hzero, Int64.toInt_zero, Int.zero_mul]

/-- The keys of two finite doubles are ordered by exact value. -/
theorem compare_ofFloat (hx : x.isFinite = true) (hy : y.isFinite = true) :
    compare (ofFloat x) (ofFloat y) = compare x.signedUnits y.signedUnits := by
  rcases ofFloat_cases y with ⟨n, hkey, -, hn⟩ | ⟨hkey, -⟩
  · rw [hkey, hn]
    exact compare_ofFloat_integer hx n
  · rcases ofFloat_cases x with ⟨m, hkey', -, hm⟩ | ⟨hkey', hnot⟩
    · rw [hkey', hm, Std.OrientedOrd.eq_swap (a := integer m), compare_ofFloat_integer hy,
        ← Std.OrientedOrd.eq_swap]
    · -- neither denotes an integer, so neither is zero
      rw [hkey, hkey']
      exact Binary64.totalCompare_eq (signedUnits_ne_zero hx hnot)

/-! ## Zones of keys -/

theorem zone_of_isFinite (hx : x.isFinite = true) : x.zone = 0 := by
  unfold Binary64.zone Binary64.beyond
  rw [hx]
  cases x.negative <;> rfl

theorem zone_integer (n : Int64) : (integer n).toBinary64.zone = 0 :=
  zone_of_isFinite (Binary64.isFinite_ofInt64 n)

theorem zone_ofFloat (x : Binary64) : (ofFloat x).toBinary64.zone = x.zone := by
  rcases ofFloat_cases x with ⟨m, hkey, hfinite, -⟩ | ⟨hkey, -⟩
  · rw [hkey, zone_integer, zone_of_isFinite hfinite]
  · rw [hkey]
    rfl

/-- The order goes from zone to zone. -/
theorem compare_eq_lt_of_zone_lt {a b : NumberKey}
    (h : a.toBinary64.zone < b.toBinary64.zone) : compare a b = .lt := by
  have hrank := Binary64.rank_lt_rank_of_zone_lt h
  rw [show compare a b = _ from order_eq_lex a b, compareLex_on, Int.compare_eq_lt.2 hrank,
    Ordering.lt_then]

end NumberKey

/-! ## Stored numbers -/

namespace Value

/-- The number that a value denotes: every integer does, and every double but infinities and NaNs. -/
def number? : Value → Option ℚ
  | .int n => some n.toInt
  | .float x => if x.isFinite then some x.value else none
  | _ => none

/-- The number that a value denotes, counted in units. -/
def units? : Value → Option ℤ
  | .int n => some (n.toInt * Binary64.unitsPerOne)
  | .float x => if x.isFinite then some x.signedUnits else none
  | _ => none

/-- Where a stored number lies: infinities and NaNs outside of the zone of the numbers, which is 0. -/
def zone? : Value → Option ℤ
  | .int _ => some 0
  | .float x => some x.zone
  | _ => none

theorem units?_of_number? {v : Value} {a : ℚ} (h : v.number? = some a) :
    ∃ i : ℤ, v.units? = some i ∧ a * Binary64.unitsPerOne = i := by
  cases v with
  | int n =>
    obtain rfl := Option.some.inj h
    refine ⟨_, rfl, ?_⟩
    push_cast
    rfl
  | float x =>
    simp only [number?, Option.ite_none_right_eq_some, Option.some.injEq] at h
    obtain ⟨hx, rfl⟩ := h
    exact ⟨_, if_pos hx, x.value_mul⟩
  | _ => contradiction

/-- A double with a whole number of ones denotes that number. -/
theorem number?_of_signedUnits {x : Binary64} {m : ℤ} (hx : x.isFinite = true)
    (hm : x.signedUnits = m * Binary64.unitsPerOne) : (Value.float x).number? = some (m : ℚ) := by
  have hmul := x.value_mul
  rw [hm, Int.cast_mul, Int.cast_natCast] at hmul
  have hvalue : x.value = m :=
    mul_right_cancel₀ (ne_of_gt (Nat.cast_pos.2 Binary64.unitsPerOne_pos)) hmul
  rw [number?, if_pos hx, hvalue]

theorem isFinite_of_units? {x : Binary64} {i : ℤ} (h : (Value.float x).units? = some i) :
    x.isFinite = true ∧ x.signedUnits = i := by
  simpa only [units?, Option.ite_none_right_eq_some, Option.some.injEq] using h

/-- The keys of values that denote numbers are ordered by the numbers of units. -/
theorem compare_units {v w : Value} {i j : ℤ} (hv : v.units? = some i) (hw : w.units? = some j) :
    ∃ k l, IndexKey.ofValue? .numeric v = some (.number k) ∧
      IndexKey.ofValue? .numeric w = some (.number l) ∧ compare k l = compare i j := by
  cases v with
  | int m =>
    obtain rfl := Option.some.inj hv
    cases w with
    | int n =>
      obtain rfl := Option.some.inj hw
      exact ⟨_, _, rfl, rfl, (Binary64.compare_mul_unitsPerOne _ _).symm⟩
    | float y =>
      obtain ⟨hy, rfl⟩ := isFinite_of_units? hw
      refine ⟨_, _, rfl, rfl, ?_⟩
      rw [Std.OrientedOrd.eq_swap (a := NumberKey.integer m), NumberKey.compare_ofFloat_integer hy,
        ← Std.OrientedOrd.eq_swap]
    | _ => contradiction
  | float x =>
    obtain ⟨hx, rfl⟩ := isFinite_of_units? hv
    cases w with
    | int n =>
      obtain rfl := Option.some.inj hw
      exact ⟨_, _, rfl, rfl, NumberKey.compare_ofFloat_integer hx n⟩
    | float y =>
      obtain ⟨hy, rfl⟩ := isFinite_of_units? hw
      exact ⟨_, _, rfl, rfl, NumberKey.compare_ofFloat hx hy⟩
    | _ => contradiction
  | _ => contradiction

/-- Numbers compare as the units that they are counted in. -/
theorem compare_eq_of_mul_eq {a b c : ℚ} {i j : ℤ} (hc : 0 < c) (hi : a * c = i) (hj : b * c = j) :
    compare i j = compare a b := by
  have hlt {a b : ℚ} {i j : ℤ} (hi : a * c = i) (hj : b * c = j) (h : a < b) : i < j := by
    have hmul := mul_lt_mul_of_pos_right h hc
    rw [hi, hj] at hmul
    exact Int.cast_lt.1 hmul
  rcases lt_trichotomy a b with h | h | h
  · rw [compare_lt_iff_lt.2 h, compare_lt_iff_lt.2 (hlt hi hj h)]
  · have hij : i = j := by
      rw [h, hj] at hi
      exact Int.cast_injective hi.symm
    rw [compare_eq_iff_eq.2 h, compare_eq_iff_eq.2 hij]
  · rw [compare_gt_iff_gt.2 h, compare_gt_iff_gt.2 (hlt hj hi h)]

theorem compare_number {v w : Value} {a b : ℚ} (hv : v.number? = some a) (hw : w.number? = some b) :
    ∃ k l, IndexKey.ofValue? .numeric v = some (.number k) ∧
      IndexKey.ofValue? .numeric w = some (.number l) ∧ compare k l = compare a b := by
  obtain ⟨i, hi, ha⟩ := units?_of_number? hv
  obtain ⟨j, hj, hb⟩ := units?_of_number? hw
  obtain ⟨k, l, hk, hl, hcompare⟩ := compare_units hi hj
  refine ⟨k, l, hk, hl, ?_⟩
  rw [hcompare]
  exact compare_eq_of_mul_eq (Nat.cast_pos.2 Binary64.unitsPerOne_pos) ha hb

/-- The double of a key lies in the zone of the value. -/
theorem zone_of_zone? {v : Value} {i : ℤ} (h : v.zone? = some i) :
    ∃ k, IndexKey.ofValue? .numeric v = some (.number k) ∧ k.toBinary64.zone = i := by
  cases v with
  | int n =>
    obtain rfl := Option.some.inj h
    exact ⟨_, rfl, NumberKey.zone_integer n⟩
  | float x =>
    obtain rfl := Option.some.inj h
    exact ⟨_, rfl, NumberKey.zone_ofFloat x⟩
  | _ => contradiction

end Value

/-! ## The order -/

namespace IndexKey

/-- The order of an index of numbers is exact. Values that denote numbers have keys that compare as the
    numbers do, and equal keys just for equal numbers; minus infinity is before them and infinity after
    them, and the NaNs are beyond the infinities, on the side of their sign. All keys are in a total order
    in which only identical keys are equal. -/
theorem numeric_order_exact :
    (∀ (v w : Value) (a b : ℚ), v.number? = some a → w.number? = some b →
      ∃ k l, ofValue? .numeric v = some k ∧ ofValue? .numeric w = some l ∧
        compare k l = compare a b ∧ (k = l ↔ a = b)) ∧
    (∀ (v w : Value) (i j : ℤ), v.zone? = some i → w.zone? = some j → i < j →
      ∃ k l, ofValue? .numeric v = some k ∧ ofValue? .numeric w = some l ∧ compare k l = .lt) ∧
    (∀ k l : IndexKey, compare k l = .eq ↔ k = l) ∧
    (∀ k l : IndexKey, compare l k = (compare k l).swap) ∧
    (∀ k l : IndexKey, (compare k l).isLE = true → (compare l k).isLE = true → k = l) ∧
    (∀ k l m : IndexKey, (compare k l).isLE = true → (compare l m).isLE = true →
      (compare k m).isLE = true) ∧
    (∀ k l : IndexKey, (compare k l).isLE = true ∨ (compare l k).isLE = true) := by
  refine ⟨fun v w a b hv hw => ?_, fun v w i j hv hw hij => ?_, fun k l => Std.compare_eq_eq_iff_eq,
    fun k l => Std.OrientedOrd.eq_swap, fun k l hkl hlk => ?_, fun k l m => Std.TransCmp.isLE_trans,
    fun k l => ?_⟩
  · obtain ⟨k, l, hk, hl, hcompare⟩ := Value.compare_number hv hw
    refine ⟨_, _, hk, hl, hcompare, ?_⟩
    rw [← compare_eq_iff_eq (a := a), ← hcompare, IndexKey.number.injEq,
      Std.compare_eq_eq_iff_eq]
  · obtain ⟨k, hk, hi⟩ := Value.zone_of_zone? hv
    obtain ⟨l, hl, hj⟩ := Value.zone_of_zone? hw
    exact ⟨_, _, hk, hl, NumberKey.compare_eq_lt_of_zone_lt (hi.trans_lt (hij.trans_eq hj.symm))⟩
  · exact Std.compare_eq_eq_iff_eq.1 (Std.OrientedCmp.isLE_antisymm hkl hlk)
  · rw [Std.OrientedOrd.eq_swap (a := l)]
    cases compare k l <;> simp

/-- The double `2 ^ 53` is before the integer that is rounded to it, -0 has the key of 0, and a NaN with the
    sign bit comes before minus infinity. -/
theorem numeric_order_exact_rounded :
    (∃ k l, ofValue? .numeric (.float (.ofInt (2 ^ 53))) = some k ∧
      ofValue? .numeric (.int (.ofInt (2 ^ 53 + 1))) = some l ∧ compare k l = .lt) ∧
    (∃ k, ofValue? .numeric (.float .negativeZero) = some k ∧ ofValue? .numeric (.int 0) = some k) ∧
    ∃ k l, ofValue? .numeric (.float (.ofMagnitude true (Binary64.infiniteMagnitude + 1))) = some k ∧
      ofValue? .numeric (.float (.ofMagnitude true Binary64.infiniteMagnitude)) = some l ∧
      compare k l = .lt := by
  obtain ⟨hexact, hzone, -⟩ := numeric_order_exact
  refine ⟨?_, ?_, ?_⟩
  · have hdouble : (Value.float (.ofInt (2 ^ 53))).number? = some ((2 ^ 53 : ℤ) : ℚ) :=
      Value.number?_of_signedUnits (by decide +kernel) (by decide +kernel)
    obtain ⟨k, l, hk, hl, hcompare, -⟩ := hexact _ (.int (.ofInt (2 ^ 53 + 1))) _ _ hdouble rfl
    refine ⟨k, l, hk, hl, ?_⟩
    rw [hcompare, compare_lt_iff_lt]
    exact Int.cast_lt.2 (by decide +kernel)
  · have hzero : (Value.float .negativeZero).number? = some ((0 : ℤ) : ℚ) :=
      Value.number?_of_signedUnits (by decide +kernel) (by decide +kernel)
    obtain ⟨k, l, hk, hl, -, hkeys⟩ := hexact _ (.int 0) _ _ hzero rfl
    have heq : k = l := hkeys.2 (congrArg Int.cast (by decide +kernel))
    exact ⟨k, hk, heq ▸ hl⟩
  · exact hzone _ _ (-2) (-1) (by decide +kernel) (by decide +kernel) (by decide)

end IndexKey

end Quarry

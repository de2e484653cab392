-- SUMMARY: Double-precision numbers as 64-bit words: parts, comparison, exact value.

/-!
# Double-precision numbers

A stored number is kept as its 64-bit word, so the sign of zero and the payload of a NaN survive
storage. Everything said here is about the word and integers made from it: the exact value is an
integer count of the smallest positive number, `2 ^ -1074`.
-/

namespace Quarry

-- A power of a number is the core library's one, also where a library brings another instance of it.
attribute [instance (high), default_instance 20000] instPowNat

/-- A number in the binary64 interchange format. -/
structure Binary64 where
  bits : UInt64
  deriving DecidableEq

namespace Binary64

/-! ## Parts of the word -/

/-- Whether the sign bit is set. -/
def negative (x : Binary64) : Bool :=
  2 ^ 63 ≤ x.bits.toNat

/-- The word without its sign bit. Among numbers of one sign it grows with the absolute value. -/
def magnitude (x : Binary64) : Nat :=
  x.bits.toNat % 2 ^ 63

/-- The magnitude of the infinities. Those beyond it are NaNs. -/
def infiniteMagnitude : Nat :=
  2047 * 2 ^ 52

/-- The number with the given sign and magnitude. -/
def ofMagnitude (negative : Bool) (magnitude : Nat) : Binary64 :=
  ⟨UInt64.ofNat (magnitude + if negative then 2 ^ 63 else 0)⟩

def isNaN (x : Binary64) : Bool :=
  infiniteMagnitude < x.magnitude

def isFinite (x : Binary64) : Bool :=
  x.magnitude < infiniteMagnitude

theorem word_eq (x : Binary64) :
    x.bits.toNat = x.magnitude + if x.negative then 2 ^ 63 else 0 := by
  have hlt := x.bits.toNat_lt
  unfold magnitude negative
  by_cases h : 2 ^ 63 ≤ x.bits.toNat
  · simp only [h, decide_true, if_true]
    omega
  · simp only [h, decide_false, Bool.false_eq_true, if_false]
    omega

/-- A number is its sign and its magnitude. -/
theorem ext_parts {x y : Binary64} (hn : x.negative = y.negative) (hm : x.magnitude = y.magnitude) :
    x = y := by
  have h : x.bits.toNat = y.bits.toNat := by rw [word_eq x, word_eq y, hn, hm]
  cases x
  cases y
  exact congrArg Binary64.mk (UInt64.toNat_inj.1 h)

theorem word_ofMagnitude (negative : Bool) {m : Nat} (h : m < 2 ^ 63) :
    (ofMagnitude negative m).bits.toNat = m + if negative then 2 ^ 63 else 0 := by
  unfold ofMagnitude
  rw [UInt64.toNat_ofNat']
  apply Nat.mod_eq_of_lt
  split <;> omega

theorem negative_ofMagnitude (negative : Bool) {m : Nat} (h : m < 2 ^ 63) :
    (ofMagnitude negative m).negative = negative := by
  unfold Binary64.negative
  rw [word_ofMagnitude negative h]
  cases negative with
  | false => simpa using h
  | true => simp

theorem magnitude_ofMagnitude (negative : Bool) {m : Nat} (h : m < 2 ^ 63) :
    (ofMagnitude negative m).magnitude = m := by
  unfold magnitude
  rw [word_ofMagnitude negative h]
  cases negative <;> simp <;> omega

/-! ## Exact value -/

/-- The number of times the significand is doubled, counted from the smallest scale. -/
def scale (x : Binary64) : Nat :=
  x.magnitude / 2 ^ 52 - 1

/-- The significand. The leading bit is not stored for numbers in the normal range. -/
def significand (x : Binary64) : Nat :=
  if x.magnitude < 2 ^ 52 then x.magnitude else 2 ^ 52 + x.magnitude % 2 ^ 52

/-- The absolute value of a finite number, in units of `2 ^ -1074`. -/
def units (x : Binary64) : Nat :=
  x.significand * 2 ^ x.scale

/-- The value of a finite number, in units of `2 ^ -1074`. -/
def signedUnits (x : Binary64) : Int :=
  if x.negative then -(x.units : Int) else x.units

/-- How many units make one. -/
def unitsPerOne : Nat :=
  2 ^ 1074

/-- The integer that a finite number denotes, if it denotes one. -/
def toInt? (x : Binary64) : Option Int :=
  if x.isFinite && x.units % unitsPerOne == 0 then
    some (if x.negative then -((x.units / unitsPerOne : Nat) : Int) else (x.units / unitsPerOne : Nat))
  else none

theorem unitsPerOne_pos : 0 < unitsPerOne := by
  decide +kernel

theorem units_of_lt {x : Binary64} (h : x.magnitude < 2 ^ 52) : x.units = x.magnitude := by
  have hexp : x.magnitude / 2 ^ 52 = 0 := Nat.div_eq_of_lt h
  rw [units, significand, scale, if_pos h, hexp]
  exact Nat.mul_one _

theorem units_of_le {x : Binary64} (h : 2 ^ 52 ≤ x.magnitude) :
    x.units = (2 ^ 52 + x.magnitude % 2 ^ 52) * 2 ^ (x.magnitude / 2 ^ 52 - 1) := by
  simp only [units, significand, scale, Nat.not_lt.2 h, if_false]

/-! ## Comparison -/

/-- The place of a number in the total order of all words: negative NaNs, negative infinity, the
    numbers with -0 before 0, infinity, NaNs. -/
def rank (x : Binary64) : Int :=
  if x.negative then -(x.magnitude : Int) - 1 else x.magnitude

theorem rank_injective {x y : Binary64} (h : x.rank = y.rank) : x = y := by
  unfold rank at h
  cases hx : x.negative <;> cases hy : y.negative <;> simp only [hx, hy] at h
  · exact ext_parts (by rw [hx, hy]) (by simp at h; omega)
  · simp at h; omega
  · simp at h; omega
  · exact ext_parts (by rw [hx, hy]) (by simp at h; omega)

/-- Comparison in the total order, in which only equal words are equal. -/
def totalCompare (x y : Binary64) : Ordering :=
  compare x.rank y.rank

/-- The magnitude with the sign of the number, the same for both zeros. -/
def signedMagnitude (x : Binary64) : Int :=
  if x.negative then -(x.magnitude : Int) else x.magnitude

/-- Equality of numbers: the zeros are equal, and a NaN differs from itself. -/
def equals (x y : Binary64) : Bool :=
  !x.isNaN && !y.isNaN && x.signedMagnitude == y.signedMagnitude

/-- Order of numbers. False if one of them is a NaN. -/
def atMost (x y : Binary64) : Bool :=
  !x.isNaN && !y.isNaN && x.signedMagnitude ≤ y.signedMagnitude

def zero : Binary64 := ⟨0⟩

/-- Whether the number is below zero. Neither -0 nor a NaN is. -/
def belowZero (x : Binary64) : Bool :=
  !x.isNaN && x.signedMagnitude < 0

/-! ## Machine numbers -/

def toFloat (x : Binary64) : Float :=
  Float.ofBits x.bits

end Binary64

end Quarry

-- SUMMARY: Products and quotients of doubles, and multiples of powers of ten made with them.
import Quarry.Number.Rounding

/-!
# Scaling by powers of ten

Products and quotients are computed exactly and then rounded once. Scaling by a power of ten takes
the power as a double and rounds at every step, so the result may be some steps away from the double
nearest to the exact product.
-/

namespace Quarry.Binary64

/-! ## Products and quotients -/

/-- The product of two finite numbers. -/
def mul (x y : Binary64) : Binary64 :=
  ofRatio (x.negative != y.negative) (x.units * y.units) (unitsPerOne * unitsPerOne)

/-- The quotient of two finite numbers, the second of which is not zero. -/
def div (x y : Binary64) : Binary64 :=
  ofRatio (x.negative != y.negative) x.units y.units

instance : Mul Binary64 := ⟨mul⟩

instance : Div Binary64 := ⟨div⟩

/-! ## Powers of ten -/

/-- The largest exponent of ten that a double reaches. -/
def largestTenExponent : Nat := 308

/-- The double nearest to `10 ^ n`. -/
def tenPow (n : Nat) : Binary64 :=
  ofRatio false (10 ^ n) 1

/-- `x * 10 ^ n` for a finite `x`. A power beyond the doubles makes all but zero infinite. -/
def timesTenPow (x : Binary64) (n : Nat) : Binary64 :=
  if x.units = 0 then x
  else if largestTenExponent < n then ofMagnitude x.negative infiniteMagnitude
  else x * tenPow n

/-- A finite number divided by the largest power of ten, `count` times over. -/
def overLargestTenPow : Nat → Binary64 → Binary64
  | 0, x => x
  | count + 1, x =>
    if x.units = 0 then x else overLargestTenPow count (x / tenPow largestTenExponent)

/-- `x / 10 ^ n` for a finite `x`. As long as the power is beyond the doubles, the largest one is
    taken off it. -/
def overTenPow (x : Binary64) (n : Nat) : Binary64 :=
  let count := (n - 1) / largestTenExponent
  overLargestTenPow count x / tenPow (n - count * largestTenExponent)

/-- `x * 10 ^ e` for a finite `x`. -/
def scaleTen (x : Binary64) (e : Int) : Binary64 :=
  if 0 ≤ e then x.timesTenPow e.toNat else x.overTenPow (-e).toNat

end Quarry.Binary64

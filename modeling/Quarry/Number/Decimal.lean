-- SUMMARY: Decimal numbers, the doubles nearest to them, and the shortest decimal of a double.
import Quarry.Number.Rounding

/-!
# Decimal numbers

A `Decimal` is a count of a power of ten. `Binary64.ofDecimal` is the double nearest to it, and
`Binary64.shortest` finds the one with the fewest digits to which a given double is the nearest.
-/

namespace Quarry

/-- The number `digits * 10 ^ exponent`. -/
structure Decimal where
  digits : Nat
  exponent : Int
  deriving DecidableEq

namespace Decimal

/-- The same number without trailing zeros in its digits. Zero has exponent 0. -/
def trim (d : Decimal) : Decimal :=
  if h : d.digits = 0 then ⟨0, 0⟩
  else if d.digits % 10 = 0 then trim ⟨d.digits / 10, d.exponent + 1⟩
  else d
termination_by d.digits
decreasing_by omega

/-- How many digits a number has. Zero has one. -/
def digitCount (n : Nat) : Nat :=
  (Nat.toDigits 10 n).length

/-- What a significand stays below. -/
def significandBound : Nat := 2 ^ 64

/-- The decimal without as many of its last digits as it takes to make its digits a significand. -/
def clip (d : Decimal) : Decimal :=
  if d.digits < significandBound then d else clip ⟨d.digits / 10, d.exponent + 1⟩
termination_by d.digits
decreasing_by simp only [significandBound] at *; omega

/-- The decimal with more digits at its end, up to the first for which a significand has no room. -/
def extend (d : Decimal) : List (Fin 10) → Decimal
  | [] => d
  | x :: xs =>
    if 10 * d.digits + x < significandBound then extend ⟨10 * d.digits + x, d.exponent - 1⟩ xs else d

end Decimal

namespace Binary64

/-! ## From decimal to double -/

/-- The double nearest to a decimal. A decimal of `10 ^ 310` or more is beyond all doubles, and one
    below `10 ^ -330` rounds to zero, so the power of ten is only computed between these. -/
def ofDecimal (negative : Bool) (d : Decimal) : Binary64 :=
  let top := Decimal.digitCount d.digits + d.exponent
  if d.digits = 0 ∨ top < -330 then ofMagnitude negative 0
  else if 310 < top then ofMagnitude negative infiniteMagnitude
  else if 0 ≤ d.exponent then ofRatio negative (d.digits * 10 ^ d.exponent.toNat) 1
  else ofRatio negative d.digits (10 ^ (-d.exponent).toNat)

/-! ## From double to decimal -/

/-- Which of two decimals is taken when a double lies midway between them. -/
inductive MidwayRule where
  | up
  | even
  deriving DecidableEq

/-- The number of digits before the point of `num / den`, zero or negative for a number below a
    tenth: the number is less than `10 ^ p` and not less than `10 ^ (p - 1)`. -/
def pointPosition (num den : Nat) : Int :=
  if den ≤ num then Decimal.digitCount (num / den)
  else 1 - Decimal.digitCount ((den - 1) / num)

/-- The multiples of `10 ^ exponent` next to `num / den`, the nearer one first. -/
def gridNeighbours (rule : MidwayRule) (num den : Nat) (exponent : Int) : List Decimal :=
  let num := num * 10 ^ (-exponent).toNat
  let den := den * 10 ^ exponent.toNat
  let below := num / den
  let rest := 2 * (num % den)
  let up := den < rest || rest == den && (rule == .up || below % 2 == 1)
  if up then [⟨below + 1, exponent⟩, ⟨below, exponent⟩] else [⟨below, exponent⟩, ⟨below + 1, exponent⟩]

/-- The decimal with the fewest digits to which the absolute value of the finite number `x` is the
    nearest double, and of those with equally many the one nearest to it. Grids of 1, 2, … 17 digits
    are tried in turn; the exact value stands for a grid that is never reached. -/
def shortest (rule : MidwayRule) (x : Binary64) : Decimal :=
  let isNearest (d : Decimal) : Bool := (ofDecimal x.negative d).bits == x.bits
  let onGrid (count : Nat) : Option Decimal :=
    let exponent := pointPosition x.units unitsPerOne - count
    ((gridNeighbours rule x.units unitsPerOne exponent).map Decimal.trim).find? isNearest
  if x.units = 0 then ⟨0, 0⟩
  else
    ((List.range' 1 17).findSome? onGrid).getD
      (Decimal.trim ⟨x.units * 5 ^ 1074, -1074⟩)

end Binary64

end Quarry

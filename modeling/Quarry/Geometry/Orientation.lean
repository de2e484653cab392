-- SUMMARY: On which side of a directed line a point lies.
import Quarry.Geometry.Basic
import Quarry.Number.Expansion

/-!
# Orientation

The sign of a determinant tells the side of a line on which a point lies. The determinant is computed
in doubles, with more and more of the rounding errors taken in until its sign is certain. So the side
is exact as long as no step overflows or underflows. Where a step has no number for its result,
neither has the determinant, and the point counts as on the line.
-/

namespace Quarry

def Position.toFloats (p : Position) : Float × Float :=
  (p.lon.toFloat, p.lat.toFloat)

/-- Where one position lies as seen from another, with what rounding has lost. -/
structure Offset where
  lon : Rounded
  lat : Rounded

namespace Offset

/-- Where `p` lies as seen from `origin`. -/
def ofPositions (p origin : Position) : Offset :=
  let (lon, lat) := p.toFloats
  let (lon₀, lat₀) := origin.toFloats
  ⟨.difference lon lon₀, .difference lat lat₀⟩

/-- Whether rounding has lost nothing. -/
def isExact (u : Offset) : Bool :=
  u.lon.lost == 0 && u.lat.lost == 0

/-! ## Bounds of errors -/

/-- Half the distance from one to the next double. -/
def unit : Float := 1.1102230246251565e-16

/-- The error of the plain determinant, relative to the sum of its products. -/
def plainError : Float := 3.3306690621773722e-16

/-- The error of the determinant of rounded offsets, relative to the same sum. -/
def roundedError : Float := (2 + 12 * unit) * unit

/-- The error of the corrected determinant, relative to the same sum. -/
def correctedError : Float := (9 + 64 * unit) * unit * unit

/-- The error of estimating an expansion, relative to the estimate. -/
def estimateError : Float := (3 + 8 * unit) * unit

/-! ## The determinant -/

/-- The determinant of the offsets as they were rounded. -/
def rounded (u v : Offset) : Expansion :=
  .ofProducts u.lon.value v.lat.value u.lat.value v.lon.value

/-- What the losses of the offsets add to the determinant, apart from their products. -/
def correction (u v : Offset) : Float :=
  (u.lon.value * v.lat.lost + v.lat.value * u.lon.lost)
    - (u.lat.value * v.lon.lost + v.lon.value * u.lat.lost)

/-- The determinant with all losses. -/
def complete (u v : Offset) : Expansion :=
  ((rounded u v).add (.ofProducts u.lon.lost v.lat.value u.lat.lost v.lon.value)
    |>.add (.ofProducts u.lon.value v.lat.lost u.lat.value v.lon.lost))
    |>.add (.ofProducts u.lon.lost v.lat.lost u.lat.lost v.lon.lost)

/-- A number with the sign of the determinant of `u` and `v`. Each approximation is taken if it is
    larger than its error can be. -/
def determinant (u v : Offset) : Float :=
  let left := u.lon.value * v.lat.value
  let right := u.lat.value * v.lon.value
  let size := (left + right).abs
  let plain := left - right
  if plainError * size ≤ plain.abs then plain
  else
    let estimate := (rounded u v).estimate
    if roundedError * size ≤ estimate.abs || u.isExact && v.isExact then estimate
    else
      let corrected := estimate + correction u v
      if correctedError * size + estimateError * estimate.abs ≤ corrected.abs then corrected
      else (complete u v).leading

end Offset

/-! ## Sides -/

/-- The side of a directed line on which a point lies. -/
inductive Side where
  | left
  | right
  | on
  deriving DecidableEq

/-- The side of the line from `a` to `b` on which `c` lies. -/
def Side.ofLine (a b c : Position) : Side :=
  let d := Offset.determinant (.ofPositions a c) (.ofPositions b c)
  if 0 < d then .left else if d < 0 then .right else .on

end Quarry

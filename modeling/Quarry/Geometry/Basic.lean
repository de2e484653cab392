-- SUMMARY: Geometries on the earth's surface: points, polygons and circles.
import Quarry.Number.Binary64

/-!
# Geometries

Positions are longitudes and latitudes in degrees. A polygon is its outer ring, closed or not; a
circle has a radius in metres. Nothing is checked when a geometry is built.
-/

namespace Quarry

structure Position where
  lon : Binary64
  lat : Binary64
  deriving DecidableEq

inductive Geometry where
  | point (p : Position)
  | polygon (ring : List Position)
  | circle (centre : Position) (radius : Binary64)
  deriving DecidableEq

/-- Equality of coordinates as numbers. -/
def Position.equals (p q : Position) : Bool :=
  p.lon.equals q.lon && p.lat.equals q.lat

def Position.isFinite (p : Position) : Bool :=
  p.lon.isFinite && p.lat.isFinite

/-- Equality of shape, with coordinates compared as numbers. -/
def Geometry.equals : Geometry → Geometry → Bool
  | .point p, .point q => p.equals q
  | .polygon r, .polygon s => r.length == s.length && (r.zip s).all fun e => e.1.equals e.2
  | .circle c x, .circle d y => c.equals d && x.equals y
  | _, _ => false

/-! ## Tests -/

/-- Whether a position lies in a region. -/
abbrev PointTest := (region : Geometry) → Position → Bool

/-- Whether a geometry lies in a region, if that can be told. -/
abbrev GeometryTest := (value region : Geometry) → Option Bool

/-- The test of points with the given one. Nothing can be told of other geometries. -/
def GeometryTest.ofPoints (inside : PointTest) : GeometryTest
  | .point p, region => some (inside region p)
  | _, _ => none

end Quarry

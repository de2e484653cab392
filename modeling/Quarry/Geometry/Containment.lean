-- SUMMARY: Which points lie in a region.
import Quarry.Geometry.Orientation

/-!
# Containment

The test of points on the earth's surface. A polygon is a shape in the plane and holds the points about
which its ring winds, none on the ring itself. A circle holds the points whose great-circle distance from
the centre is at most the radius.
-/

namespace Quarry

/-! ## Polygons -/

namespace Ring

/-- Whether `x` lies between `a` and `b`, in either order. -/
def between (x a b : Binary64) : Bool :=
  a.atMost x && x.atMost b || b.atMost x && x.atMost a

/-- What an edge adds to the winding number about `p`, or nothing if `p` lies on the edge. An
    upward edge includes its start and excludes its end, a downward edge the other way round. -/
def turn? (p : Position) (edge : Position × Position) : Option Int :=
  let (start, stop) := edge
  let touches := between p.lon start.lon stop.lon
  if start.lat.atMost p.lat then
    if p.lat.atMost stop.lat then
      match Side.ofLine start stop p with
      | .left => some (if stop.lat.equals p.lat then 0 else 1)
      | .right => some 0
      | .on => if touches then none else some 0
    else some 0
  else if stop.lat.atMost p.lat then
    match Side.ofLine start stop p with
    | .left => some 0
    | .right => some (-1)
    | .on => if touches then none else some 0
  else some 0

/-- The ring with its first position repeated at the end, unless it ends with it already. -/
def close (ring : List Position) : List Position :=
  match ring.head?, ring.getLast? with
  | some first, some last => if first.equals last then ring else ring ++ [first]
  | _, _ => ring

def edges (ring : List Position) : List (Position × Position) :=
  ring.zip ring.tail

/-- How often the closed ring winds about `p`, or nothing if `p` lies on it. -/
def winding? (ring : List Position) (p : Position) : Option Int :=
  (edges (close ring)).foldlM (fun w edge => (turn? p edge).map (w + ·)) 0

/-- Whether the ring winds about `p`. No ring winds about a point at infinity. -/
def holds (ring : List Position) (p : Position) : Bool :=
  p.isFinite &&
    match winding? ring p with
    | some w => w != 0
    | none => false

end Ring

/-! ## Circles -/

namespace Circle

/-- The mean radius of the earth in metres. -/
def earthRadius : Float := 6371008.8

def radians (degrees : Float) : Float :=
  degrees * (3.14159265358979323846 / 180.0)

/-- The distance of two positions along a great circle, by the haversine formula. -/
def distance (p q : Position) : Float :=
  let (lon₁, lat₁) := p.toFloats
  let (lon₂, lat₂) := q.toFloats
  let sinLat := ((radians (lat₂ - lat₁)) / 2.0).sin
  let sinLon := ((radians (lon₂ - lon₁)) / 2.0).sin
  let a := sinLat * sinLat + (radians lat₁).cos * (radians lat₂).cos * (sinLon * sinLon)
  earthRadius * (2.0 * a.sqrt.asin)

/-- Whether `p` is at most `radius` metres away from the centre. -/
def holds (centre : Position) (radius : Binary64) (p : Position) : Bool :=
  distance centre p ≤ radius.toFloat

end Circle

/-! ## Regions -/

/-- Whether the region holds a position. -/
def Geometry.holds : PointTest
  | .point q, p => q.equals p
  | .polygon ring, p => Ring.holds ring p
  | .circle centre radius, p => Circle.holds centre radius p

/-- Whether a region contains a geometry. -/
def GeometryTest.containment : GeometryTest := .ofPoints Geometry.holds

end Quarry

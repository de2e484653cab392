-- SUMMARY: Geometries as parts of stored documents.
import Quarry.Geometry.Basic
import Quarry.Json.Access

/-!
# Encoding of geometries

Inside values a geometry is an object whose one member is named for its shape. Unlike GeoJSON this
form takes every geometry as it is.
-/

namespace Quarry

namespace Geometry

def toJson : Geometry → Json
  | .point p => .tagged "point" (.ofMembers [("lon", .ofFloat p.lon), ("lat", .ofFloat p.lat)])
  | .polygon ring =>
    .tagged "polygon" (.array (ring.map fun p => .array [.ofFloat p.lon, .ofFloat p.lat]))
  | .circle c radius =>
    .tagged "circle"
      (.ofMembers [("lon", .ofFloat c.lon), ("lat", .ofFloat c.lat), ("radius", .ofFloat radius)])

/-- A position written as a pair of numbers. -/
def pair? (depth : Nat) (j : Json) : Option Position := do
  match ← j.items? depth with
  | [lon, lat] => return ⟨← lon.float?, ← lat.float?⟩
  | _ => none

/-- The geometry written under its tag. -/
def ofTagged? (depth : Nat) (tag : String) (body : Json) : Option Geometry := do
  match tag with
  | "point" =>
    match ← body.fields? depth ["lon", "lat"] with
    | [lon, lat] => return .point ⟨← Json.required? Json.float? lon, ← Json.required? Json.float? lat⟩
    | _ => none
  | "polygon" => return .polygon (← (← body.items? depth).mapM (pair? (depth - 1)))
  | "circle" =>
    match ← body.fields? depth ["lon", "lat", "radius"] with
    | [lon, lat, radius] =>
      return .circle ⟨← Json.required? Json.float? lon, ← Json.required? Json.float? lat⟩
        (← Json.required? Json.float? radius)
    | _ => none
  | _ => none

/-- The geometry that a document encodes, if it opens at most `depth` arrays and objects at once. -/
def ofJson? : Nat → Json → Option Geometry
  | depth + 1, .object [(some tag, body)] => ofTagged? depth tag body
  | _, _ => none

end Geometry

end Quarry

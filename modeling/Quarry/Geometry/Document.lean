-- SUMMARY: Geometries as GeoJSON texts.
import Quarry.Geometry.Basic
import Quarry.Json.Access
import Quarry.Json.Printer
import Quarry.Json.Reader

/-!
# GeoJSON

A geometry is written as an object with its coordinates and its type, circles with the type
`AeroCircle`. Reading checks what building does not: a ring has three positions at least, and a
radius is not below zero. Other members and further coordinates are ignored.
-/

namespace Quarry

/-! ## Plain documents -/

namespace Json

mutual

/-- Whether the document can be taken in as a whole: JSON throughout, no deeper than allowed, every
    literal a text, every number within the doubles. -/
def plain (depth : Nat) : Json → Bool
  | .null | .bool _ => true
  | .number n => n.toBinary64.isFinite
  | .string s => s.isSome
  | .array items => depth != 0 && plainItems (depth - 1) items
  | .object members => depth != 0 && plainMembers (depth - 1) members
  | .broken => false

def plainItems (depth : Nat) : List Json → Bool
  | [] => true
  | j :: rest => plain depth j && plainItems depth rest

def plainMembers (depth : Nat) : List (Option String × Json) → Bool
  | [] => true
  | (key, j) :: rest => key.isSome && plain depth j && plainMembers depth rest

end

/-- The last member of an object with the given name. -/
def member? (name : String) : Json → Option Json
  | .object members => (members.reverse.find? (·.1 == some name)).map (·.2)
  | _ => none

def item? (i : Nat) : Json → Option Json
  | .array items => items[i]?
  | _ => none

end Json

/-! ## Faults -/

/-- Why a text is no geometry. -/
inductive GeoFault where
  | syntactic
  | missingType
  | missingCoordinates
  | notPosition
  | notNumeric
  | noOuterRing
  | shortRing
  | missingCentre
  | missingRadius
  | negativeRadius
  | unsupportedType (name : String)
  deriving DecidableEq

def GeoFault.reason : GeoFault → String
  | .syntactic => "not JSON"
  | .missingType => "missing `type`"
  | .missingCoordinates => "missing `coordinates`"
  | .notPosition => "position must be [lon, lat]"
  | .notNumeric => "position must be numeric"
  | .noOuterRing => "polygon needs an outer ring"
  | .shortRing => "polygon ring needs at least 3 positions"
  | .missingCentre => "missing center"
  | .missingRadius => "missing radius"
  | .negativeRadius => "radius must not be negative"
  | .unsupportedType name => "unsupported geometry type `" ++ name ++ "`"

def GeoFault.message (f : GeoFault) : String :=
  "invalid geojson: " ++ f.reason

/-! ## Reading -/

/-- A position is an array that starts with two numbers. -/
def Position.ofGeoJson : Json → Except GeoFault Position
  | .array (lon :: lat :: _) =>
    match lon.float?, lat.float? with
    | some lon, some lat => .ok ⟨lon, lat⟩
    | _, _ => .error .notNumeric
  | _ => .error .notPosition

namespace Geometry

/-- The geometry of the given type with the given coordinates. -/
def ofCoordinates (type : String) (coordinates : Json) : Except GeoFault Geometry :=
  match type with
  | "Point" => return .point (← Position.ofGeoJson coordinates)
  | "Polygon" =>
    match coordinates.item? 0 with
    | some (.array positions) => do
      let ring ← positions.mapM Position.ofGeoJson
      if ring.length < 3 then throw .shortRing else return .polygon ring
    | _ => .error .noOuterRing
  | "AeroCircle" =>
    match coordinates.item? 0 with
    | some centre => do
      let centre ← Position.ofGeoJson centre
      match coordinates.item? 1 |>.bind Json.float? with
      | some radius => if radius.belowZero then throw .negativeRadius else return .circle centre radius
      | none => throw .missingRadius
    | none => .error .missingCentre
  | name => .error (.unsupportedType name)

/-- The geometry that a document describes. -/
def ofGeoJson (j : Json) : Except GeoFault Geometry :=
  match j.member? "type" with
  | some (.string (some type)) =>
    match j.member? "coordinates" with
    | some coordinates => ofCoordinates type coordinates
    | none => .error .missingCoordinates
  | _ => .error .missingType

/-- The geometry that a text describes. -/
def parse (text : String) : Except GeoFault Geometry :=
  let r := Json.read text
  if r.complete && r.value.plain Json.nestingLimit then ofGeoJson r.value else .error .syntactic

/-! ## Writing -/

end Geometry

def Position.toGeoJson (p : Position) : Json :=
  .array [.ofFloat p.lon, .ofFloat p.lat]

namespace Geometry

/-- The document that describes a geometry. -/
def toGeoJson (g : Geometry) : Json :=
  let (type, coordinates) := match g with
    | .point p => ("Point", p.toGeoJson)
    | .polygon ring => ("Polygon", .array [.array (ring.map Position.toGeoJson)])
    | .circle centre radius => ("AeroCircle", .array [centre.toGeoJson, .ofFloat radius])
  .ofMembers [("coordinates", coordinates), ("type", .ofString type)]

/-- The text that describes a geometry. -/
def display (g : Geometry) : String :=
  g.toGeoJson.render

end Geometry

end Quarry

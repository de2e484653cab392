-- SUMMARY: Values as documents.
import Quarry.Geometry.Encoding
import Quarry.Value.Basic

/-!
# Encoding of values

A value is an object whose one member is named for its kind. Maps are arrays of pairs, since their
keys may be any values.
-/

namespace Quarry.Value

/-! ## Writing -/

mutual

def toJson : Value → Json
  | .int n => .tagged "int" (.ofInt n.toInt)
  | .float x => .tagged "float" (.ofFloat x)
  | .string s => .tagged "string" (.ofString s)
  | .bool b => .tagged "bool" (.bool b)
  | .list items => .tagged "list" (.array (itemsToJson items))
  | .map entries => .tagged "map" (.array (entriesToJson entries))
  | .geo g => .tagged "geo" g.toJson

def itemsToJson : List Value → List Json
  | [] => []
  | v :: rest => v.toJson :: itemsToJson rest

def entriesToJson : List (Value × Value) → List Json
  | [] => []
  | (k, v) :: rest => .array [k.toJson, v.toJson] :: entriesToJson rest

end

/-! ## Reading -/

/-- A scalar or a geometry written under its tag. -/
def ofTagged? (depth : Nat) (tag : String) (body : Json) : Option Value :=
  match tag with
  | "int" => return .int (← body.int64?)
  | "float" => return .float (← body.float?)
  | "string" => return .string (← body.string?)
  | "bool" => return .bool (← body.bool?)
  | "geo" => return .geo (← Geometry.ofJson? depth body)
  | _ => none

/-- The value that a document encodes, if it opens at most `depth` arrays and objects at once. -/
def ofJson? : Nat → Json → Option Value
  | depth + 1, .object [(some tag, body)] =>
    if tag = "list" then
      match depth, body with
      | depth + 1, .array items => return .list (← items.mapM (ofJson? depth))
      | _, _ => none
    else if tag = "map" then
      match depth, body with
      | _ + 1, .array [] => some (.map [])
      | depth + 2, .array items => return .map (← items.mapM (pair? depth))
      | _, _ => none
    else ofTagged? depth tag body
  | _, _ => none
where
  pair? : Nat → Json → Option (Value × Value)
    | depth, .array [k, v] => return (← ofJson? depth k, ← ofJson? depth v)
    | _, _ => none

end Quarry.Value

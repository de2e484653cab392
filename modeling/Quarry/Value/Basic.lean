-- SUMMARY: The values that records hold and conditions compare with.
import Quarry.Geometry.Document
import Quarry.Number.FloatText
import Quarry.Number.Rounding
import Quarry.Text.Quoted

/-!
# Values

A value is a scalar, a geometry, a list or a map. A map keeps its entries in the order in which they
were given; its keys may be any values, and a key may occur more than once.
-/

namespace Quarry

/-! ## Kinds -/

inductive Kind where
  | integer
  | float
  | string
  | boolean
  | list
  | map
  | geo
  deriving DecidableEq

def Kind.name : Kind → String
  | .integer => "integer"
  | .float => "float"
  | .string => "string"
  | .boolean => "boolean"
  | .list => "list"
  | .map => "map"
  | .geo => "geo"

def Kind.isNumeric : Kind → Bool
  | .integer | .float => true
  | _ => false

def Kind.isScalar : Kind → Bool
  | .integer | .float | .string | .boolean => true
  | _ => false

/-! ## Values -/

inductive Value where
  | int (n : Int64)
  | float (x : Binary64)
  | string (s : String)
  | bool (b : Bool)
  | list (items : List Value)
  | map (entries : List (Value × Value))
  | geo (g : Geometry)

namespace Value

def kind : Value → Kind
  | .int _ => .integer
  | .float _ => .float
  | .string _ => .string
  | .bool _ => .boolean
  | .list _ => .list
  | .map _ => .map
  | .geo _ => .geo

def isNumeric (v : Value) : Bool := v.kind.isNumeric

def isScalar (v : Value) : Bool := v.kind.isScalar

/-! ## Contents -/

def int? : Value → Option Int64
  | .int n => some n
  | _ => none

def string? : Value → Option String
  | .string s => some s
  | _ => none

def bool? : Value → Option Bool
  | .bool b => some b
  | _ => none

def list? : Value → Option (List Value)
  | .list items => some items
  | _ => none

def map? : Value → Option (List (Value × Value))
  | .map entries => some entries
  | _ => none

def geo? : Value → Option Geometry
  | .geo g => some g
  | _ => none

/-- A number as a double, an integer rounded to the nearest one. -/
def float? : Value → Option Binary64
  | .int n => some (.ofInt64 n)
  | .float x => some x
  | _ => none

/-- The value of the first entry of a map whose key is the given text. -/
def get? (v : Value) (key : String) : Option Value := do
  let entries ← v.map?
  (entries.find? fun e => e.1.string? == some key).map (·.2)

/-! ## Equality -/

mutual

/-- Equality of kind and content, with doubles compared as numbers. -/
def equals : Value → Value → Bool
  | .int m, .int n => m == n
  | .float x, .float y => x.equals y
  | .string s, .string t => s == t
  | .bool a, .bool b => a == b
  | .list xs, .list ys => equalItems xs ys
  | .map xs, .map ys => equalEntries xs ys
  | .geo g, .geo h => g.equals h
  | _, _ => false

def equalItems : List Value → List Value → Bool
  | [], [] => true
  | v :: vs, w :: ws => v.equals w && equalItems vs ws
  | _, _ => false

def equalEntries : List (Value × Value) → List (Value × Value) → Bool
  | [], [] => true
  | (k, v) :: vs, (l, w) :: ws => k.equals l && v.equals w && equalEntries vs ws
  | _, _ => false

end

/-! ## Display -/

mutual

/-- The value as shown to a reader. -/
def display : Value → String
  | .int n => (Numeral.ofInt n.toInt).text
  | .float x => x.display
  | .string s => Text.quoted s
  | .bool true => "true"
  | .bool false => "false"
  | .list items => "[" ++ displayItems items ++ "]"
  | .map entries => "\x7b" ++ displayEntries entries ++ "\x7d"
  | .geo g => g.display

def displayItems : List Value → String
  | [] => ""
  | [v] => v.display
  | v :: rest => v.display ++ ", " ++ displayItems rest

def displayEntries : List (Value × Value) → String
  | [] => ""
  | [(k, v)] => k.display ++ ": " ++ v.display
  | (k, v) :: rest => k.display ++ ": " ++ v.display ++ ", " ++ displayEntries rest

end

end Value

end Quarry

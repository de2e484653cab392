-- SUMMARY: Comparing stored values with operands.
import Quarry.Text.Lowercase
import Quarry.Value.Basic

/-!
# Comparison of values

Integers are compared exactly, and an integer with a double as doubles, in the total order of
doubles. Strings are compared character by character, by their lowercase forms when case is ignored.
Truth values and geometries can only be equal or different. Anything else does not compare.
-/

namespace Quarry

/-! ## Faults -/

/-- What a stored value should have been. -/
inductive Expectation where
  | kind (k : Kind)
  | stringOrList
  /-- Maps are told apart, since a selector would make them acceptable. -/
  | stringOrListButMap
  | listOrMap
  deriving DecidableEq

def Expectation.text : Expectation → String
  | .kind k => k.name
  | .stringOrList => "string or list"
  | .stringOrListButMap => "string or list (maps need a selector)"
  | .listOrMap => "list or map"

/-- Why a condition cannot be evaluated at all. -/
inductive Obstacle where
  | missingOperand
  | noGeometryTest
  | notPoint
  deriving DecidableEq

def Obstacle.reason : Obstacle → String
  | .missingOperand => "missing second operand"
  | .noGeometryTest => "no geo predicate configured"
  | .notPoint => "only point values can be tested for containment"

/-- Why a comparison has no outcome. -/
inductive ComparisonFault where
  | mismatch (expected : Expectation) (found : Kind)
  | unsupported (obstacle : Obstacle)
  deriving DecidableEq

/-- The outcome of a comparison. -/
abbrev Compared := Except ComparisonFault

namespace Comparison

/-- The stored value is not of the operand's kind. -/
def mismatch {α : Type} (stored operand : Value) : Compared α :=
  .error (.mismatch (.kind operand.kind) stored.kind)

/-! ## Scalars -/

/-- A text as it takes part in comparisons. -/
def fold (ignoreCase : Bool) (s : String) : String :=
  if ignoreCase then Text.lowercase s else s

/-- The order of two numbers as doubles. -/
def numeric (stored operand : Value) : Compared Ordering :=
  match stored.float?, operand.float? with
  | some x, some y => .ok (x.totalCompare y)
  | _, _ => mismatch stored operand

def order (ignoreCase : Bool) (stored operand : Value) : Compared Ordering :=
  match stored, operand with
  | .int m, .int n => .ok (compare m.toInt n.toInt)
  | .string s, .string t => .ok (compare (fold ignoreCase s) (fold ignoreCase t))
  | _, _ => numeric stored operand

def equal (ignoreCase : Bool) (stored operand : Value) : Compared Bool :=
  match stored, operand with
  | .int m, .int n => .ok (m == n)
  | .string s, .string t => .ok (fold ignoreCase s == fold ignoreCase t)
  | .bool a, .bool b => .ok (a == b)
  | .geo g, .geo h => .ok (g.equals h)
  | _, _ => do return (← numeric stored operand) == .eq

/-- Whether the stored value lies between the bounds, both included. The upper bound is looked at
    only if the lower one holds. -/
def between (ignoreCase : Bool) (stored lower upper : Value) : Compared Bool := do
  if (← order ignoreCase stored lower) == .lt then return false
  else return (← order ignoreCase stored upper) != .gt

/-! ## Texts -/

/-- Whether `part` occurs in a text. -/
def occursIn (part : List Char) : List Char → Bool
  | [] => part.isEmpty
  | c :: rest => part.isPrefixOf (c :: rest) || occursIn part rest

/-- A literal test of the characters of an operand against those of the stored text. -/
def text (test : (operand stored : List Char) → Bool) (ignoreCase : Bool) (stored operand : Value) :
    Compared Bool :=
  match stored, operand with
  | .string s, .string t => .ok (test (fold ignoreCase t).toList (fold ignoreCase s).toList)
  | _, _ => mismatch stored operand

/-! ## Containers -/

def list (stored : Value) : Compared (List Value) :=
  match stored with
  | .list items => .ok items
  | v => .error (.mismatch (.kind .list) v.kind)

def map (stored : Value) : Compared (List (Value × Value)) :=
  match stored with
  | .map entries => .ok entries
  | v => .error (.mismatch (.kind .map) v.kind)

/-- Whether any element passes a test. All are tested, so that one that cannot be compared is found
    wherever it stands. -/
def any {α : Type} (test : α → Compared Bool) : List α → Compared Bool
  | [] => .ok false
  | a :: rest => do
    let passed ← test a
    return passed || (← any test rest)

/-- Whether the value of the first entry with the given key equals `expected`. All keys are compared,
    and keys are never folded. -/
def atKey (ignoreCase : Bool) (entries : List (Value × Value)) (key expected : Value) :
    Compared Bool := do
  let tested ← entries.mapM fun e => do return (← equal false e.1 key, e.2)
  match tested.find? (·.1) with
  | some e => equal ignoreCase e.2 expected
  | none => return false

end Comparison

end Quarry

-- SUMMARY: Predicates as documents.
import Quarry.Predicate.Basic
import Quarry.Value.Encoding

/-!
# Encoding of predicates

An absent second operand and an absent selector are left out. What is read is a condition, which
still has to be built.
-/

namespace Quarry

namespace Operator

def toJson (op : Operator) : Json :=
  .ofString op.tag

def ofJson? (depth : Nat) (j : Json) : Option Operator := do
  ofTag? (← j.name? depth)

end Operator

namespace Selector

def toJson (s : Selector) : Json :=
  .ofString s.tag

def ofJson? (depth : Nat) (j : Json) : Option Selector := do
  ofTag? (← j.name? depth)

end Selector

/-- The document of a predicate. -/
def Predicate.toJson (p : Predicate) : Json :=
  .ofMembers <|
    [("field", .ofString p.field), ("operator", p.operator.toJson), ("value1", p.value1.toJson)]
      ++ (p.value2.map fun v => ("value2", v.toJson)).toList
      ++ [("ignore_case", .bool p.ignoreCase)]
      ++ (p.selector.map fun s => ("selector", s.toJson)).toList

/-- The condition that a document spells out. -/
def Condition.ofJson? (depth : Nat) (j : Json) : Option Condition := do
  match ← j.fields? depth ["field", "operator", "value1", "value2", "ignore_case", "selector"] with
  | [field, operator, value1, value2, ignoreCase, selector] =>
    let depth := depth - 1
    let operand? := Json.defaulted? none (Json.optional? (Value.ofJson? depth))
    return {
      field := ← Json.required? Json.string? field
      operator := ← Json.required? (Operator.ofJson? depth) operator
      value1 := ← operand? value1
      value2 := ← operand? value2
      ignoreCase := ← Json.defaulted? false Json.bool? ignoreCase
      selector := ← Json.defaulted? none (Json.optional? (Selector.ofJson? depth)) selector }
  | _ => none

end Quarry

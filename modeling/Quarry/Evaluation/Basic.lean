-- SUMMARY: Whether a record satisfies a tree of predicates.
import Quarry.Evaluation.Comparison
import Quarry.Geometry.Containment
import Quarry.PredicateTree.Basic
import Quarry.Record.Basic

/-!
# Evaluation

A conjunction is evaluated up to its first false child and a disjunction up to its first true one, so
an error in a child counts only if the children before it leave the outcome open. A record without
the field satisfies no predicate on it.
-/

namespace Quarry

/-- A condition that could not be evaluated against a record. -/
structure EvaluationError where
  field : String
  operator : Operator
  fault : ComparisonFault
  deriving DecidableEq

def EvaluationError.message (e : EvaluationError) : String :=
  match e.fault with
  | .mismatch expected found =>
    "type mismatch on `" ++ e.field ++ "` (" ++ e.operator.name ++ "): expected " ++ expected.text
      ++ ", found " ++ found.name
  | .unsupported obstacle =>
    "unsupported operator " ++ e.operator.name ++ " on `" ++ e.field ++ "`: " ++ obstacle.reason

/-- What evaluation depends on besides the record: how geometries are tested, if at all. -/
structure Evaluator where
  geometryTest : Option GeometryTest

namespace Evaluator

/-- Points are tested, and no other geometries. -/
def ofPoints (inside : PointTest) : Evaluator := ⟨some (.ofPoints inside)⟩

/-- Points are tested for containment. -/
def containment : Evaluator := ⟨some .containment⟩

def withoutGeometry : Evaluator := ⟨none⟩

def display (ev : Evaluator) : String :=
  "RecordEvaluator \x7b geo: " ++ (if ev.geometryTest.isSome then "true" else "false") ++ " \x7d"

/-! ## Predicates -/

open Comparison

/-- The second operand of a predicate that takes two. -/
def second (p : Predicate) : Compared Value :=
  match p.value2 with
  | some v => .ok v
  | none => .error (.unsupported .missingOperand)

/-- `CONTAINING`: a part of a string, an item of a list, or with a selector a part of a container. -/
def containing (p : Predicate) (stored : Value) : Compared Bool :=
  let ignoreCase := p.ignoreCase
  let equalsOperand (v : Value) : Compared Bool := equal ignoreCase v p.value1
  match p.selector, stored with
  | none, .string _ => text occursIn ignoreCase stored p.value1
  | none, .list items => any equalsOperand items
  | none, .map _ => .error (.mismatch .stringOrListButMap .map)
  | none, v => .error (.mismatch .stringOrList v.kind)
  | some .value, .list items => any equalsOperand items
  | some .value, .map entries => any (fun e => equalsOperand e.2) entries
  | some .value, v => .error (.mismatch .listOrMap v.kind)
  | some .key, .map entries => any (fun e => equalsOperand e.1) entries
  | some .keyValue, .map entries => do atKey ignoreCase entries p.value1 (← second p)
  | some _, v => .error (.mismatch (.kind .map) v.kind)

/-- `GEO_WITHIN`. -/
def geoWithin (ev : Evaluator) (p : Predicate) (stored : Value) : Compared Bool :=
  match ev.geometryTest with
  | none => .error (.unsupported .noGeometryTest)
  | some test =>
    match p.value1, stored with
    | .geo region, .geo value =>
      match test value region with
      | some b => .ok b
      | none => .error (.unsupported .notPoint)
    | .geo _, v => .error (.mismatch (.kind .geo) v.kind)
    | v, _ => .error (.mismatch (.kind .geo) v.kind)

/-- Whether a stored value satisfies a predicate. -/
def test (ev : Evaluator) (p : Predicate) (stored : Value) : Compared Bool :=
  let v := p.value1
  let ignoreCase := p.ignoreCase
  match p.operator with
  | .eq => equal ignoreCase stored v
  | .notEq => do return !(← equal ignoreCase stored v)
  | .lt => do return (← order ignoreCase stored v).isLT
  | .ltEq => do return (← order ignoreCase stored v).isLE
  | .gt => do return (← order ignoreCase stored v).isGT
  | .gtEq => do return (← order ignoreCase stored v).isGE
  | .between => do between ignoreCase stored v (← second p)
  | .startsWith => text List.isPrefixOf ignoreCase stored v
  | .endsWith => text List.isSuffixOf ignoreCase stored v
  | .containing => containing p stored
  | .isIn =>
    match v with
    | .list candidates => any (equal ignoreCase stored) candidates
    | v => .error (.mismatch (.kind .list) v.kind)
  | .listValContaining => do any (equal ignoreCase · v) (← list stored)
  | .listValBetween => do
    let upper ← second p
    any (between ignoreCase · v upper) (← list stored)
  | .listValGt => do any (fun item => return (← order ignoreCase item v).isGT) (← list stored)
  | .listValLtEq => do any (fun item => return (← order ignoreCase item v).isLE) (← list stored)
  | .mapKeysContain => do any (fun e => equal ignoreCase e.1 v) (← map stored)
  | .mapValuesContain => do any (fun e => equal ignoreCase e.2 v) (← map stored)
  | .mapKeysBetween => do
    let upper ← second p
    any (fun e => between ignoreCase e.1 v upper) (← map stored)
  | .mapValBetween => do
    let upper ← second p
    any (fun e => between ignoreCase e.2 v upper) (← map stored)
  | .mapValGt => do any (fun e => return (← order ignoreCase e.2 v).isGT) (← map stored)
  | .mapValEqByKey => do
    let expected ← second p
    atKey ignoreCase (← map stored) v expected
  | .geoWithin => geoWithin ev p stored

/-- Whether a record satisfies a predicate. -/
def accepts (ev : Evaluator) (r : Record) (p : Predicate) : Except EvaluationError Bool :=
  match r.resolve? p.field with
  | none => .ok false
  | some stored => (test ev p stored).mapError fun fault => ⟨p.field, p.operator, fault⟩

/-! ## Trees -/

mutual

/-- Whether a record satisfies a tree. -/
def evaluate (ev : Evaluator) (r : Record) : PredicateTree → Except EvaluationError Bool
  | .leaf p => ev.accepts r p
  | .branch .and ts => evaluateAll ev r ts
  | .branch .or ts => evaluateAny ev r ts

/-- Whether a record satisfies every tree. -/
def evaluateAll (ev : Evaluator) (r : Record) : List PredicateTree → Except EvaluationError Bool
  | [] => .ok true
  | t :: rest => do if ← ev.evaluate r t then ev.evaluateAll r rest else return false

/-- Whether a record satisfies some tree. -/
def evaluateAny (ev : Evaluator) (r : Record) : List PredicateTree → Except EvaluationError Bool
  | [] => .ok false
  | t :: rest => do if ← ev.evaluate r t then return true else ev.evaluateAny r rest

end

end Evaluator

end Quarry

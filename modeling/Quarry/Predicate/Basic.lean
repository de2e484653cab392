-- SUMMARY: Conditions on one field, and the validation that every one of them has passed.
import Quarry.Operator
import Quarry.Value.Basic

/-!
# Predicates

A `Condition` holds the parts of a comparison as someone wrote them down. A `Predicate` is a
condition that passed `Condition.check`: `Condition.build` is the only way to make one.
-/

namespace Quarry

/-! ## Fields -/

/-- The field that stands for a record's write counter. -/
def generationField : String := "@generation"

/-- The field that stands for the time at which a record expires. -/
def expirationField : String := "@expiration"

/-- Whether the field stands for something kept beside the bins of a record. -/
def isMetadataField (field : String) : Bool :=
  field == generationField || field == expirationField

/-! ## Conditions -/

/-- The parts of a comparison, not yet checked. -/
structure Condition where
  field : String
  operator : Operator
  value1 : Option Value := none
  value2 : Option Value := none
  ignoreCase : Bool := false
  selector : Option Selector := none

/-- Why a condition is not well formed. -/
inductive ConditionFault where
  | emptyField
  | missingOperand
  | misplacedSelector
  | twoOperandsExpected
  | oneOperandExpected
  | metadataComparison
  | metadataOperand
  | notScalar (found : Kind)
  | notOrdered (found : Kind)
  | mixedBounds
  | notText (found : Kind)
  | notList (found : Kind)
  | candidateNotScalar (found : Kind)
  | mixedCandidates (first other : Kind)
  | notRegion (found : Kind)
  | ignoreCaseWithoutText
  deriving DecidableEq

def ConditionFault.reason : ConditionFault → String
  | .emptyField => "field path is empty"
  | .missingOperand => "missing operand"
  | .misplacedSelector => "element selector only applies to CONTAINING"
  | .twoOperandsExpected => "expected two operands"
  | .oneOperandExpected => "expected one operand"
  | .metadataComparison => "metadata fields only support scalar comparisons"
  | .metadataOperand => "metadata operand must be an integer"
  | .notScalar found => "expected a scalar operand, got " ++ found.name
  | .notOrdered found => "expected a numeric or string operand, got " ++ found.name
  | .mixedBounds => "range bounds must both be numeric or both be strings"
  | .notText found => "expected a string operand, got " ++ found.name
  | .notList found => "expected a list operand, got " ++ found.name
  | .candidateNotScalar found => "IN list holds a non-scalar " ++ found.name
  | .mixedCandidates first other => "IN list mixes " ++ first.name ++ " and " ++ other.name ++ " candidates"
  | .notRegion found => "expected a geo region, got " ++ found.name
  | .ignoreCaseWithoutText => "ignore-case requires string operands"

/-- A condition that was refused. -/
structure PredicateError where
  field : String
  operator : Operator
  fault : ConditionFault
  deriving DecidableEq

def PredicateError.message (e : PredicateError) : String :=
  "invalid predicate on `" ++ e.field ++ "` (" ++ e.operator.name ++ "): " ++ e.fault.reason

/-! ## Validation -/

/-- The number of operands of an operator under a selector: matching a key and its value together
    takes two. -/
def effectiveArity (operator : Operator) (selector : Option Selector) : Nat :=
  if operator = .containing ∧ selector = some .keyValue then 2 else operator.arity

/-- Whether values of the two kinds can be compared: numbers with each other, and otherwise values
    of the same kind. -/
def Kind.comparable (k l : Kind) : Bool :=
  k.isNumeric && l.isNumeric || k == l

/-- What is wrong with a list of candidates. -/
def candidatesFault? (candidates : List Value) : Option ConditionFault :=
  match candidates.find? (!·.isScalar) with
  | some v => some (.candidateNotScalar v.kind)
  | none =>
    match candidates with
    | [] => none
    | first :: _ =>
      (candidates.find? fun v => !first.kind.comparable v.kind).map fun v =>
        .mixedCandidates first.kind v.kind

/-- What is wrong with the operands of an operator. -/
def domainFault? (operator : Operator) (value1 : Value) (value2 : Option Value) :
    Option ConditionFault :=
  let operands := value1 :: value2.toList
  match operator.domain with
  | .scalar => (operands.find? (!·.isScalar)).map (.notScalar ·.kind)
  | .ordered =>
    match operands.find? fun v => !v.isNumeric && v.kind != .string with
    | some v => some (.notOrdered v.kind)
    | none =>
      match value2 with
      | some v => if value1.isNumeric != v.isNumeric then some .mixedBounds else none
      | none => none
  | .text => if value1.kind = .string then none else some (.notText value1.kind)
  | .scalarList =>
    match value1 with
    | .list candidates => candidatesFault? candidates
    | v => some (.notList v.kind)
  | .geo => if value1.kind = .geo then none else some (.notRegion value1.kind)

/-- What is wrong with a comparison of a metadata field. -/
def metadataFault? (operator : Operator) (value1 : Value) (value2 : Option Value) :
    Option ConditionFault :=
  if !operator.isScalarComparison then some .metadataComparison
  else if (value1 :: value2.toList).any (·.kind != .integer) then some .metadataOperand
  else none

/-- Whether the operand that stored values are compared with is text. -/
def comparesText (operator : Operator) (selector : Option Selector) (value1 : Value)
    (value2 : Option Value) : Bool :=
  let compared :=
    if operator = .mapValEqByKey ∨ (operator = .containing ∧ selector = some .keyValue) then value2
    else some value1
  match compared with
  | some (.string _) => true
  | some (.list candidates) =>
    operator == .isIn && !candidates.isEmpty && candidates.all (·.kind == .string)
  | _ => false

/-- What is wrong with the operands and modifiers of a condition that has a first operand. -/
def operandsFault? (c : Condition) (value1 : Value) : Option ConditionFault :=
  let arity := effectiveArity c.operator c.selector
  if c.selector.isSome && c.operator != .containing then some .misplacedSelector
  else if arity = 2 ∧ c.value2.isNone then some .twoOperandsExpected
  else if arity = 1 ∧ c.value2.isSome then some .oneOperandExpected
  else
    (if isMetadataField c.field then metadataFault? c.operator value1 c.value2 else none)
    <|> domainFault? c.operator value1 c.value2
    <|> if c.ignoreCase && !comparesText c.operator c.selector value1 c.value2 then
          some .ignoreCaseWithoutText
        else none

/-- The first thing that is wrong with a condition. -/
def Condition.fault? (c : Condition) : Option ConditionFault :=
  if c.field = "" then some .emptyField
  else
    match c.value1 with
    | none => some .missingOperand
    | some value1 => operandsFault? c value1

/-! ## Predicates -/

/-- A well-formed condition. -/
structure Predicate where
  field : String
  operator : Operator
  value1 : Value
  value2 : Option Value
  ignoreCase : Bool
  selector : Option Selector
  wellFormed :
    (Condition.mk field operator (some value1) value2 ignoreCase selector).fault? = none

/-- The parts of a predicate. -/
def Predicate.condition (p : Predicate) : Condition :=
  ⟨p.field, p.operator, some p.value1, p.value2, p.ignoreCase, p.selector⟩

/-- The predicate with the given parts, if nothing is wrong with them. -/
def Condition.build (c : Condition) : Except PredicateError Predicate :=
  match c with
  | ⟨field, operator, some value1, value2, ignoreCase, selector⟩ =>
    match h : (Condition.mk field operator (some value1) value2 ignoreCase selector).fault? with
    | none => .ok ⟨field, operator, value1, value2, ignoreCase, selector, h⟩
    | some fault => .error ⟨field, operator, fault⟩
  | ⟨field, operator, none, _, _, _⟩ =>
    .error ⟨field, operator, if field = "" then .emptyField else .missingOperand⟩

namespace Predicate

/-- The number of operands. -/
def arity (p : Predicate) : Nat :=
  effectiveArity p.operator p.selector

def isMetadata (p : Predicate) : Bool :=
  isMetadataField p.field

/-- Equality of all parts, with operands compared as values. -/
def equals (p q : Predicate) : Bool :=
  p.field == q.field && p.operator == q.operator && p.value1.equals q.value1
    && (match p.value2, q.value2 with
      | some v, some w => v.equals w
      | none, none => true
      | _, _ => false)
    && p.ignoreCase == q.ignoreCase && p.selector == q.selector

/-- The predicate as shown to a reader. -/
def display (p : Predicate) : String :=
  p.field ++ " " ++ p.operator.name ++ " " ++ p.value1.display
    ++ (match p.value2 with
      | some v => ", " ++ v.display
      | none => "")
    ++ (match p.selector with
      | some s => " [" ++ s.name ++ "]"
      | none => "")
    ++ (if p.ignoreCase then " (ignore case)" else "")

/-! ## Shorthands -/

/-- A comparison with one operand. -/
def unary (operator : Operator) (field : String) (value : Value) : Except PredicateError Predicate :=
  Condition.build ⟨field, operator, some value, none, false, none⟩

def eq : String → Value → Except PredicateError Predicate := unary .eq
def notEq : String → Value → Except PredicateError Predicate := unary .notEq
def lt : String → Value → Except PredicateError Predicate := unary .lt
def ltEq : String → Value → Except PredicateError Predicate := unary .ltEq
def gt : String → Value → Except PredicateError Predicate := unary .gt
def gtEq : String → Value → Except PredicateError Predicate := unary .gtEq
def containing : String → Value → Except PredicateError Predicate := unary .containing

/-- A range with both ends included. -/
def between (field : String) (lower upper : Value) : Except PredicateError Predicate :=
  Condition.build ⟨field, .between, some lower, some upper, false, none⟩

def startsWith (field start : String) : Except PredicateError Predicate :=
  unary .startsWith field (.string start)

def endsWith (field ending : String) : Except PredicateError Predicate :=
  unary .endsWith field (.string ending)

/-- The field equals one of the candidates. -/
def isIn (field : String) (candidates : List Value) : Except PredicateError Predicate :=
  unary .isIn field (.list candidates)

def geoWithin (field : String) (region : Geometry) : Except PredicateError Predicate :=
  unary .geoWithin field (.geo region)

/-- A comparison of the time at which a record expires, in seconds. -/
def expiry (operator : Operator) (value : Value) : Except PredicateError Predicate :=
  unary operator expirationField value

/-- A comparison of a record's write counter. -/
def generation (operator : Operator) (value : Value) : Except PredicateError Predicate :=
  unary operator generationField value

end Predicate

end Quarry

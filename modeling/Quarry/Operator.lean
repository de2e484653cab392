-- SUMMARY: The comparisons that conditions can make.

/-!
# Operators

An operator fixes how many operands a condition takes, what they may be, and the shape of the field
it looks at.
-/

namespace Quarry

inductive Operator where
  | eq
  | notEq
  | lt
  | ltEq
  | gt
  | gtEq
  | between
  | startsWith
  | endsWith
  | containing
  | isIn
  | listValContaining
  | listValBetween
  | listValGt
  | listValLtEq
  | mapKeysContain
  | mapValuesContain
  | mapKeysBetween
  | mapValBetween
  | mapValGt
  /-- The map takes the first operand to the second. -/
  | mapValEqByKey
  | geoWithin
  deriving DecidableEq

/-- The part of a container that `CONTAINING` inspects. -/
inductive Selector where
  | key
  | value
  | keyValue
  deriving DecidableEq

/-- What an operator accepts as operands. -/
inductive OperandDomain where
  /-- Integer, float, string or boolean. -/
  | scalar
  /-- Numbers or strings, not both. -/
  | ordered
  | text
  | scalarList
  | geo
  deriving DecidableEq

/-- What an operator expects to find in a field. -/
inductive FieldShape where
  | scalar
  | list
  | map
  | geo
  deriving DecidableEq

namespace Operator

/-- All operators, in the order in which they are listed to users. -/
def all : List Operator :=
  [.eq, .notEq, .lt, .ltEq, .gt, .gtEq, .between, .startsWith, .endsWith, .containing, .isIn,
    .listValContaining, .listValBetween, .listValGt, .listValLtEq, .mapKeysContain,
    .mapValuesContain, .mapKeysBetween, .mapValBetween, .mapValGt, .mapValEqByKey, .geoWithin]

/-! ## Operands and fields -/

/-- The number of operands. -/
def arity : Operator → Nat
  | .between | .listValBetween | .mapKeysBetween | .mapValBetween | .mapValEqByKey => 2
  | _ => 1

def domain : Operator → OperandDomain
  | .eq | .notEq | .containing | .listValContaining | .mapKeysContain | .mapValuesContain
  | .mapValEqByKey => .scalar
  | .lt | .ltEq | .gt | .gtEq | .between | .listValBetween | .listValGt | .listValLtEq
  | .mapKeysBetween | .mapValBetween | .mapValGt => .ordered
  | .startsWith | .endsWith => .text
  | .isIn => .scalarList
  | .geoWithin => .geo

/-- `CONTAINING` also applies to lists, and with a selector to maps. -/
def shape : Operator → FieldShape
  | .listValContaining | .listValBetween | .listValGt | .listValLtEq => .list
  | .mapKeysContain | .mapValuesContain | .mapKeysBetween | .mapValBetween | .mapValGt
  | .mapValEqByKey => .map
  | .geoWithin => .geo
  | _ => .scalar

/-- Whether an index can answer the comparison. -/
def isPushable : Operator → Bool
  | .eq | .lt | .ltEq | .gt | .gtEq | .between | .geoWithin => true
  | _ => false

/-- Whether the operator compares one scalar with its operands by equality or order. -/
def isScalarComparison : Operator → Bool
  | .eq | .notEq | .lt | .ltEq | .gt | .gtEq | .between => true
  | _ => false

/-! ## Names -/

/-- The name shown to users. -/
def name : Operator → String
  | .eq => "EQ"
  | .notEq => "NOT_EQ"
  | .lt => "LT"
  | .ltEq => "LTEQ"
  | .gt => "GT"
  | .gtEq => "GTEQ"
  | .between => "BETWEEN"
  | .startsWith => "STARTS_WITH"
  | .endsWith => "ENDS_WITH"
  | .containing => "CONTAINING"
  | .isIn => "IN"
  | .listValContaining => "LIST_VAL_CONTAINING"
  | .listValBetween => "LIST_VAL_BETWEEN"
  | .listValGt => "LIST_VAL_GT"
  | .listValLtEq => "LIST_VAL_LTEQ"
  | .mapKeysContain => "MAP_KEYS_CONTAIN"
  | .mapValuesContain => "MAP_VALUES_CONTAIN"
  | .mapKeysBetween => "MAP_KEYS_BETWEEN"
  | .mapValBetween => "MAP_VAL_BETWEEN"
  | .mapValGt => "MAP_VAL_GT"
  | .mapValEqByKey => "MAP_VAL_EQ_BY_KEY"
  | .geoWithin => "GEO_WITHIN"

/-- The name in documents. -/
def tag : Operator → String
  | .eq => "eq"
  | .notEq => "not_eq"
  | .lt => "lt"
  | .ltEq => "lt_eq"
  | .gt => "gt"
  | .gtEq => "gt_eq"
  | .between => "between"
  | .startsWith => "starts_with"
  | .endsWith => "ends_with"
  | .containing => "containing"
  | .isIn => "in"
  | .listValContaining => "list_val_containing"
  | .listValBetween => "list_val_between"
  | .listValGt => "list_val_gt"
  | .listValLtEq => "list_val_lt_eq"
  | .mapKeysContain => "map_keys_contain"
  | .mapValuesContain => "map_values_contain"
  | .mapKeysBetween => "map_keys_between"
  | .mapValBetween => "map_val_between"
  | .mapValGt => "map_val_gt"
  | .mapValEqByKey => "map_val_eq_by_key"
  | .geoWithin => "geo_within"

def ofTag? (tag : String) : Option Operator :=
  all.find? (·.tag == tag)

end Operator

namespace Selector

def all : List Selector := [.key, .value, .keyValue]

/-- The name shown to users. -/
def name : Selector → String
  | .key => "Key"
  | .value => "Value"
  | .keyValue => "KeyValue"

/-- The name in documents. -/
def tag : Selector → String
  | .key => "key"
  | .value => "value"
  | .keyValue => "key_value"

def ofTag? (tag : String) : Option Selector :=
  all.find? (·.tag == tag)

end Selector

end Quarry

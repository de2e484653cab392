-- SUMMARY: Descriptions of secondary indexes and the queries put to them.
import Quarry.Predicate.Basic

/-!
# Secondary indexes

An index covers one field of one collection. A catalog tells which index, if any, covers a field.
-/

namespace Quarry

/-- What an index holds: numbers, strings, or points on the earth. -/
inductive IndexType where
  | numeric
  | string
  | geo2dSphere
  deriving DecidableEq

namespace IndexType

def all : List IndexType := [.numeric, .string, .geo2dSphere]

/-- The name shown to users. -/
def name : IndexType → String
  | .numeric => "NUMERIC"
  | .string => "STRING"
  | .geo2dSphere => "GEO2DSPHERE"

/-- The name in documents. -/
def tag : IndexType → String
  | .numeric => "numeric"
  | .string => "string"
  | .geo2dSphere => "geo2d_sphere"

def ofTag? (tag : String) : Option IndexType :=
  all.find? (·.tag == tag)

end IndexType

structure IndexDescriptor where
  collection : String
  name : String
  field : String
  type : IndexType
  deriving DecidableEq

/-- The index that covers a field of a collection, if there is one. -/
abbrev Catalog := (collection field : String) → Option IndexDescriptor

/-- A condition on one field that an index is asked to answer. A range with two bounds includes the
    first and excludes the second. -/
structure IndexQuery where
  field : String
  operator : Operator
  bound1 : Value
  bound2 : Option Value

/-- The query as shown to a reader. -/
def IndexQuery.display (q : IndexQuery) : String :=
  q.field ++ " " ++ q.operator.name ++ " " ++ q.bound1.display
    ++ (match q.bound2 with
      | some v => ", " ++ v.display
      | none => "")

end Quarry

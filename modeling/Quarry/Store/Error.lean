-- SUMMARY: What can go wrong in a store.
import Quarry.Index.Basic

/-!
# Store errors
-/

namespace Quarry

/-- Why an index cannot answer a query. -/
inductive QueryFault where
  | notRegion
  | operandType
  | upperBound
  | operator
  deriving DecidableEq

def QueryFault.reason : QueryFault → String
  | .notRegion => "expected GEO_WITHIN with a region"
  | .operandType => "operand does not match index type"
  | .upperBound => "missing or mistyped upper bound"
  | .operator => "operator is not index-answerable"

inductive StoreError where
  | collectionNotFound (collection : String)
  | indexExists (name : String)
  | indexNotFound (collection field : String)
  | unsupportedQuery (field : String) (operator : Operator) (fault : QueryFault) (type : IndexType)
  /-- The record with this key cannot be encoded. -/
  | encoding (key : String)
  /-- The medium failed. -/
  | storage (message : String)
  deriving DecidableEq

def StoreError.message : StoreError → String
  | .collectionNotFound c => "collection not found: " ++ c
  | .indexExists name => "index already exists: " ++ name
  | .indexNotFound c field => "no index on `" ++ c ++ "." ++ field ++ "`"
  | .unsupportedQuery field operator fault type =>
    "index on `" ++ field ++ "` cannot answer " ++ operator.name ++ ": " ++ fault.reason
      ++ " (" ++ type.name ++ " index)"
  | .encoding key => "record encoding error: failed to encode " ++ key
  | .storage m => "storage error: " ++ m

end Quarry

-- SUMMARY: Index descriptions and queries as documents.
import Quarry.Index.Basic
import Quarry.Predicate.Encoding

/-!
# Encoding of index descriptions and queries
-/

namespace Quarry

namespace IndexType

def toJson (t : IndexType) : Json :=
  .ofString t.tag

def ofJson? (depth : Nat) (j : Json) : Option IndexType := do
  ofTag? (← j.name? depth)

end IndexType

namespace IndexDescriptor

def toJson (d : IndexDescriptor) : Json :=
  .ofMembers [
    ("collection", .ofString d.collection), ("name", .ofString d.name),
    ("field", .ofString d.field), ("index_type", d.type.toJson)]

def ofJson? (depth : Nat) (j : Json) : Option IndexDescriptor := do
  match ← j.fields? depth ["collection", "name", "field", "index_type"] with
  | [collection, name, field, type] =>
    return {
      collection := ← Json.required? Json.string? collection
      name := ← Json.required? Json.string? name
      field := ← Json.required? Json.string? field
      type := ← Json.required? (IndexType.ofJson? (depth - 1)) type }
  | _ => none

end IndexDescriptor

namespace IndexQuery

/-- The document of a query. An absent second bound is left out. -/
def toJson (q : IndexQuery) : Json :=
  .ofMembers <|
    [("field", .ofString q.field), ("operator", q.operator.toJson), ("bound1", q.bound1.toJson)]
      ++ (q.bound2.map fun v => ("bound2", v.toJson)).toList

def ofJson? (depth : Nat) (j : Json) : Option IndexQuery := do
  match ← j.fields? depth ["field", "operator", "bound1", "bound2"] with
  | [field, operator, bound1, bound2] =>
    let depth := depth - 1
    return {
      field := ← Json.required? Json.string? field
      operator := ← Json.required? (Operator.ofJson? depth) operator
      bound1 := ← Json.required? (Value.ofJson? depth) bound1
      bound2 := ← Json.defaulted? none (Json.optional? (Value.ofJson? depth)) bound2 }
  | _ => none

end IndexQuery

end Quarry

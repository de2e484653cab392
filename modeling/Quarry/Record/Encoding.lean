-- SUMMARY: Records as documents.
import Quarry.Record.Basic
import Quarry.Value.Encoding

/-!
# Encoding of records
-/

namespace Quarry

/-- The bins that an object encodes. Of members with one name the last one counts. -/
def Record.binsOfJson? (depth : Nat) (j : Json) : Option (SortedMap String Value) :=
  match depth, j with
  | depth + 1, .object members => do
    let entries ← members.mapM fun m => do return (← m.1, ← Value.ofJson? depth m.2)
    return .ofList entries
  | _, _ => none

namespace Record

/-- The document of a record. -/
def toJson (r : Record) : Json :=
  .ofMembers [
    ("key", .ofString r.key),
    ("bins", .ofMembers (r.bins.entries.map fun e => (e.1, e.2.toJson))),
    ("generation", .ofInt r.generation.toNat),
    ("expiration", (r.expiration.map fun t => Json.ofInt t.toInt).getD .null)]

/-- The record that a document encodes. -/
def ofJson? (depth : Nat) (j : Json) : Option Record := do
  match ← j.fields? depth ["key", "bins", "generation", "expiration"] with
  | [key, bins, generation, expiration] =>
    return {
      key := ← Json.required? Json.string? key
      bins := ← Json.defaulted? .empty (binsOfJson? (depth - 1)) bins
      generation := ← Json.defaulted? 0 Json.uint32? generation
      expiration := ← Json.defaulted? none (Json.optional? Json.int64?) expiration }
  | _ => none

end Record

end Quarry

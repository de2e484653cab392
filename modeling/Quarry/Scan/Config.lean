-- SUMMARY: The policy under which scans run.
import Quarry.Json.Access

/-!
# Scan policy
-/

namespace Quarry

structure Config where
  /-- Whether a scan may read a whole collection. -/
  scansEnabled : Bool := true
  /-- How many matching records a scan yields at most. -/
  maxRecords : UInt64 := 10000
  deriving DecidableEq

namespace Config

def toJson (c : Config) : Json :=
  .ofMembers [
    ("scans_enabled", .bool c.scansEnabled), ("max_records", .ofInt c.maxRecords.toNat)]

/-- The policy that a document encodes, absent parts as in the default policy. -/
def ofJson? (depth : Nat) (j : Json) : Option Config := do
  match ← j.fields? depth ["scans_enabled", "max_records"] with
  | [scansEnabled, maxRecords] =>
    let default : Config := {}
    return {
      scansEnabled := ← Json.defaulted? default.scansEnabled Json.bool? scansEnabled
      maxRecords := ← Json.defaulted? default.maxRecords Json.uint64? maxRecords }
  | _ => none

end Config

end Quarry

-- SUMMARY: What can go wrong in a scan.
import Quarry.Evaluation.Basic
import Quarry.Store.Error

/-!
# Scan errors
-/

namespace Quarry

inductive ScanError where
  | invalidTree (e : TreeError)
  | evaluation (e : EvaluationError)
  | scansDisabled (collection : String)
  /-- Storage failed. `filter` shows the query that was put to it, if there was one. -/
  | storage (collection : String) (filter : Option String) (source : StoreError)
  | cancelled (collection : String)
  deriving DecidableEq

def ScanError.message : ScanError → String
  | .invalidTree e => e.message
  | .evaluation e => e.message
  | .scansDisabled c => "scan of `" ++ c ++ "` requires a full scan but scans are disabled"
  | .storage c filter source =>
    "storage error scanning `" ++ c ++ "`"
      ++ (match filter with
        | some f => " with filter `" ++ f ++ "`"
        | none => "")
      ++ ": " ++ source.message
  | .cancelled c => "scan of `" ++ c ++ "` cancelled"

end Quarry

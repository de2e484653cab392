-- SUMMARY: Running requests: planning, opening storage, collecting records.
import Quarry.Scan.Cursor

/-!
# The engine

An engine plans a request with its catalog and its policy, opens one stream for the plan and hands
out a cursor over it. Storage may have effects when it is asked for the stream; a scan over the reader of
the engine is the case in which it has none.
-/

namespace Quarry

structure Request where
  collection : String
  tree : Option PredicateTree
  /-- A query to be pushed in place of a planned one. -/
  hint : Option IndexQuery
  /-- A cap in place of that of the policy. -/
  maxRecords : Option Nat

structure Engine where
  reader : Reader
  catalog : Catalog
  config : Config
  evaluator : Evaluator

/-- The one opening that a plan needs. -/
def Plan.opening (plan : Plan) (collection : String) : Opening :=
  match plan.pushed with
  | some q => .query collection q
  | none => .scan collection

namespace Engine

/-- What becomes of a scan with the answer of storage for its plan. -/
def concluded (e : Engine) (q : Request) (plan : Plan) :
    Except StoreError Stream → Except ScanError Cursor
  | .ok source =>
    .ok (.start q.collection e.evaluator (q.maxRecords.getD e.config.maxRecords.toNat) plan source)
  | .error err => .error (.storage q.collection (plan.pushed.map (·.display)) err)

/-- Starts a scan over storage that may have effects when it is asked for a stream. -/
def selectIn {m : Type → Type} [Monad m] (ask : Opening → m (Except StoreError Stream)) (e : Engine)
    (q : Request) : m (Except ScanError Cursor) :=
  match Plan.ofRequest e.catalog e.config q.collection q.tree q.hint with
  | .error err => pure (.error err)
  | .ok plan => e.concluded q plan <$> ask (plan.opening q.collection)

/-- Starts a scan. -/
def select (e : Engine) (q : Request) : Except ScanError Cursor :=
  Id.run (e.selectIn (fun opening => pure (e.reader.answer opening)) q)

/-- The records of a scan, or the first error. -/
def selectAll (e : Engine) (q : Request) : Except ScanError (List Record) := do
  (← e.select q).records

/-- The number of records of a scan. -/
def count (e : Engine) (q : Request) : Except ScanError Nat := do
  return (← e.selectAll q).length

end Engine

end Quarry

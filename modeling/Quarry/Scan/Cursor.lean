-- SUMMARY: A running scan: pulling records, testing them, stopping.
import Quarry.Scan.Plan
import Quarry.Store.Basic

/-!
# Cursors

A cursor yields the records of its stream that satisfy the residual of its plan, until the stream
ends, enough records were yielded, something fails, or it is cancelled. It gives its stream up the
moment it comes to an end.
-/

namespace Quarry

inductive ScanState where
  | indexScanning
  | fullScanning
  | streaming
  | exhausted
  | failed
  deriving DecidableEq

namespace ScanState

def name : ScanState → String
  | .indexScanning => "IndexScanning"
  | .fullScanning => "FullScanning"
  | .streaming => "Streaming"
  | .exhausted => "Exhausted"
  | .failed => "Failed"

/-- Whether nothing more will come. -/
def isTerminal : ScanState → Bool
  | .exhausted | .failed => true
  | _ => false

end ScanState

structure Cursor where
  collection : String
  plan : Plan
  evaluator : Evaluator
  /-- The stream that is being read. A cursor that has come to an end has none. -/
  source : Option Stream
  state : ScanState
  /-- How many records may be yielded. -/
  cap : Nat
  yielded : Nat
  cancelled : Bool

namespace Cursor

/-- What a step of a cursor yields. -/
abbrev Item := Except ScanError Record

/-- The cursor of a plan over the stream that was opened for it. -/
def start (collection : String) (evaluator : Evaluator) (cap : Nat) (plan : Plan) (source : Stream) :
    Cursor where
  collection
  plan
  evaluator
  source := some source
  state := if plan.isFullScan then .fullScanning else .indexScanning
  cap
  yielded := 0
  cancelled := false

/-- The cursor at its end. -/
def stop (c : Cursor) (state : ScanState) : Cursor :=
  { c with state, source := none }

/-- A failure to read, with the query that was being answered. -/
def storageError (c : Cursor) (e : StoreError) : ScanError :=
  .storage c.collection (c.plan.pushed.map (·.display)) e

/-- Whether a record is to be yielded. -/
def accepts (c : Cursor) (r : Record) : Except EvaluationError Bool :=
  c.plan.accepts c.evaluator r

/-- The cursor after yielding a record, with `source` left to read. -/
def yielding (c : Cursor) (source : Stream) : Cursor :=
  let c := { c with yielded := c.yielded + 1, state := .streaming, source := some source }
  if c.cap ≤ c.yielded then c.stop .exhausted else c

/-- What a step comes to. -/
structure Step where
  /-- The cursor after the step. -/
  cursor : Cursor
  /-- What the step yields, if anything. -/
  item : Option Item
  /-- What the step leaves of the stream, if the end was not read. The cursor gives it up where it comes
      to an end. -/
  left : Option Stream

/-- Reads on until a record is accepted or something ends the scan. -/
def pull (c : Cursor) (counted : Bool) : Feed → Step
  | .nil => ⟨c.stop .exhausted, none, none⟩
  | .cons (.error e) rest =>
    ⟨c.stop .failed, some (.error (c.storageError e)), some ⟨rest, counted⟩⟩
  | .cons (.ok r) rest =>
    match c.accepts r with
    | .ok true => ⟨c.yielding ⟨rest, counted⟩, some (.ok r), some ⟨rest, counted⟩⟩
    | .ok false => pull c counted (rest ())
    | .error e => ⟨c.stop .failed, some (.error (.evaluation e)), some ⟨rest, counted⟩⟩

/-- One step. -/
def step (c : Cursor) : Step :=
  if c.state.isTerminal then ⟨c, none, c.source⟩
  else if c.cap ≤ c.yielded then ⟨c.stop .exhausted, none, c.source⟩
  else if c.cancelled then ⟨c.stop .failed, some (.error (.cancelled c.collection)), c.source⟩
  else
    match c.source with
    | some s => c.pull s.counted (s.feed ())
    | none => ⟨c.stop .exhausted, none, none⟩

/-- The cursor after one step, and what the step yields, if anything. -/
def next (c : Cursor) : Cursor × Option Item :=
  (c.step.cursor, c.step.item)

/-- The cursor, to be stopped at its next step. -/
def cancel (c : Cursor) : Cursor :=
  { c with cancelled := true }

/-- Up to `fuel` steps: all records yielded after those in `taken`, which has the last one first, or
    the first error. -/
def drain : Nat → List Record → Cursor → Except ScanError (List Record)
  | 0, taken, _ => .ok taken.reverse
  | fuel + 1, taken, c =>
    match c.next with
    | (_, none) => .ok taken.reverse
    | (_, some (.error e)) => .error e
    | (c, some (.ok r)) => drain fuel (r :: taken) c

/-- All records that the cursor yields, or the first error. A step that yields nothing comes at the
    latest when the cap is reached. -/
def records (c : Cursor) : Except ScanError (List Record) :=
  drain (c.cap - c.yielded + 1) [] c

end Cursor

end Quarry

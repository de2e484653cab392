-- SUMMARY: Splitting a tree into a query for an index and a rest to evaluate.
import Quarry.PredicateTree.Basic
import Quarry.Scan.Config
import Quarry.Scan.Error

/-!
# Plans

A record is wanted if it satisfies the pushed query and the residual. At most one predicate is pushed:
the tree itself, or the first child of a conjunction at its root that an index can answer. A pushed
predicate is taken out of the residual unless the index may return records that do not satisfy it.
-/

namespace Quarry

structure Plan where
  /-- What storage answers through an index. -/
  pushed : Option IndexQuery
  /-- What every record is tested for afterwards. None accepts all. -/
  residual : Option PredicateTree

/-- A query that stands for a predicate. It is exact if every record it returns satisfies the
    predicate. -/
structure Pushdown where
  query : IndexQuery
  exact : Bool

namespace Plan

/-- All records of the collection. -/
def fullScan : Plan := ⟨none, none⟩

def isFullScan (p : Plan) : Bool :=
  p.pushed.isNone

/-- Whether a record satisfies the residual. -/
def accepts (p : Plan) (ev : Evaluator) (r : Record) : Except EvaluationError Bool :=
  match p.residual with
  | some t => ev.evaluate r t
  | none => .ok true

/-- The plan as shown to a reader. -/
def display (p : Plan) : String :=
  (match p.pushed with
    | some q => "IndexScan(" ++ q.display ++ ")"
    | none => "Scan")
    ++ match p.residual with
      | some t => " -> Filter(" ++ t.display ++ ")"
      | none => ""

/-! ## Pushing a predicate -/

/-- Whether an index of the given type can answer the predicate's operator with its operands. -/
def fits (type : IndexType) (p : Predicate) : Bool :=
  match type, p.operator with
  | .numeric, .between => p.value1.kind == .integer && p.value2.any (·.kind == .integer)
  | .numeric, .eq | .numeric, .lt | .numeric, .ltEq | .numeric, .gt | .numeric, .gtEq =>
    p.value1.kind == .integer
  | .string, .eq => p.value1.kind == .string
  | .geo2dSphere, .geoWithin => true
  | _, _ => false

/-- The query for a predicate that fits an index. An index excludes the upper bound of a range, so
    the successor of the bound is pushed, and numbers between the two come back as well; the largest
    integer has no successor. -/
def queryFor? (type : IndexType) (p : Predicate) : Option Pushdown :=
  let query : IndexQuery := ⟨p.field, p.operator, p.value1, p.value2⟩
  match type, p.operator, p.value2 with
  | .numeric, .between, some (.int upper) =>
    if upper = Int64.maxValue then none
    else some ⟨{ query with bound2 := some (.int (upper + 1)) }, false⟩
  | _, _, _ => some ⟨query, true⟩

/-- The query for a predicate, if an index on its field can answer it. -/
def pushdown? (catalog : Catalog) (collection : String) (p : Predicate) : Option Pushdown :=
  if !p.operator.isPushable || p.ignoreCase || p.isMetadata || p.selector.isSome then none
  else do
    let d ← catalog collection p.field
    if fits d.type p then queryFor? d.type p else none

/-! ## Splitting a tree -/

/-- The query for the first tree that is a predicate which an index can answer, and the other
    trees. -/
def takePushable? (catalog : Catalog) (collection : String) :
    List PredicateTree → Option (Pushdown × List PredicateTree)
  | [] => none
  | t :: rest =>
    match t.leaf?.bind (pushdown? catalog collection) with
    | some d => some (d, rest)
    | none => (takePushable? catalog collection rest).map fun r => (r.1, t :: r.2)

/-- The conjunction of what is left of one. -/
def conjunction : List PredicateTree → Option PredicateTree
  | [] => none
  | [t] => some t
  | ts => some (.branch .and ts)

/-- The plan for a tree, without regard to policy. -/
def ofTree (catalog : Catalog) (collection : String) (t : PredicateTree) : Plan :=
  match t with
  | .leaf p =>
    match pushdown? catalog collection p with
    | some d => ⟨some d.query, if d.exact then none else some t⟩
    | none => ⟨none, some t⟩
  | .branch .and ts =>
    match takePushable? catalog collection ts with
    | some (d, others) => ⟨some d.query, if d.exact then conjunction others else some t⟩
    | none => ⟨none, some t⟩
  | .branch .or _ => ⟨none, some t⟩

/-- The plan for a request. A hint is pushed as it is and leaves the whole tree. A plan that pushes
    nothing needs scans to be enabled. -/
def ofRequest (catalog : Catalog) (config : Config) (collection : String)
    (tree : Option PredicateTree) (hint : Option IndexQuery) : Except ScanError Plan :=
  match tree.bind PredicateTree.fault? with
  | some e => .error (.invalidTree e)
  | none =>
    let plan : Plan := match hint, tree with
      | some q, tree => ⟨some q, tree⟩
      | none, some t => ofTree catalog collection t
      | none, none => fullScan
    if plan.isFullScan && !config.scansEnabled then .error (.scansDisabled collection)
    else .ok plan

end Plan

end Quarry

-- SUMMARY: A scan with a hint yields the records in the range of the hint that the whole tree accepts.
import Mathlib.Data.List.Nodup
import Mathlib.Data.List.Perm.Subperm
import Quarry.Proofs.Scan.Transparency

/-!
# Hints

A hint is pushed as it is and takes nothing from the tree. So a scan with a hint walks through the records
that the hint wants, in the order of the index that answers it, and tests each of them for the whole tree
until there are enough accepted ones, or a test fails. The hint need not have to do with the tree: it may
leave out records that the tree accepts, but it lets in no record that the tree rejects.
-/

namespace Quarry

/-! ## Walks through records -/

/-- What a walk through records comes to if it may yield so many: the accepted ones of all records, or of
    those up to the last that may be yielded, or the first error if fewer are accepted before it. -/
inductive Request.Walks (q : Request) (ev : Evaluator) (cap : Nat) :
    List Record → Except ScanError (List Record) → Prop
  | ended {rs : List Record} (tested : ∀ r ∈ rs, (q.accepts ev r).isOk = true)
      (few : (rs.filter (q.wants ev)).length ≤ cap) : Walks q ev cap rs (.ok (rs.filter (q.wants ev)))
  | capped {before after : List Record} (tested : ∀ r ∈ before, (q.accepts ev r).isOk = true)
      (full : (before.filter (q.wants ev)).length = cap) :
    Walks q ev cap (before ++ after) (.ok (before.filter (q.wants ev)))
  | failed {before after : List Record} {r : Record} {err : EvaluationError}
      (tested : ∀ r ∈ before, (q.accepts ev r).isOk = true)
      (few : (before.filter (q.wants ev)).length < cap) (error : q.accepts ev r = .error err) :
    Walks q ev cap (before ++ r :: after) (.error (.evaluation err))

namespace Request

variable {q : Request} {ev : Evaluator} {cap : Nat} {rs : List Record}
  {outcome : Except ScanError (List Record)}

theorem filter_wants_of_accepted {r : Record} (h : q.accepts ev r = .ok true) (rs : List Record) :
    (r :: rs).filter (q.wants ev) = r :: rs.filter (q.wants ev) :=
  List.filter_cons_of_pos (wants_iff.2 h)

theorem filter_wants_of_rejected {r : Record} (h : q.accepts ev r = .ok false) (rs : List Record) :
    (r :: rs).filter (q.wants ev) = rs.filter (q.wants ev) := by
  have hwants : ¬ q.wants ev r = true := by
    rw [wants_iff, h]
    simp
  exact List.filter_cons_of_neg hwants

theorem tested_cons {r : Record} {b : Bool} (hr : q.accepts ev r = .ok b)
    (h : ∀ r ∈ rs, (q.accepts ev r).isOk = true) :
    ∀ s ∈ r :: rs, (q.accepts ev s).isOk = true := by
  refine List.forall_mem_cons.2 ⟨?_, h⟩
  rw [hr]
  rfl

namespace Walks

/-- A walk that yields a record before others may yield one more. -/
theorem accepted {r : Record} (hr : q.accepts ev r = .ok true) (h : q.Walks ev cap rs outcome) :
    q.Walks ev (cap + 1) (r :: rs) (outcome.map (r :: ·)) := by
  have hfilter := filter_wants_of_accepted hr
  cases h with
  | ended tested few =>
    change q.Walks ev (cap + 1) (r :: rs) (.ok (r :: rs.filter (q.wants ev)))
    rw [← hfilter]
    refine .ended (tested_cons hr tested) ?_
    rw [hfilter]
    exact Nat.succ_le_succ few
  | @capped before after tested full =>
    change q.Walks ev (cap + 1) ((r :: before) ++ after) (.ok (r :: before.filter (q.wants ev)))
    rw [← hfilter]
    refine .capped (tested_cons hr tested) ?_
    rw [hfilter]
    exact congrArg Nat.succ full
  | @failed before after s err tested few error =>
    change q.Walks ev (cap + 1) ((r :: before) ++ s :: after) (.error (.evaluation err))
    refine .failed (tested_cons hr tested) ?_ error
    rw [hfilter]
    exact Nat.succ_lt_succ few

/-- A walk passes by a record that is rejected. -/
theorem rejected {r : Record} (hr : q.accepts ev r = .ok false) (h : q.Walks ev cap rs outcome) :
    q.Walks ev cap (r :: rs) outcome := by
  have hfilter := filter_wants_of_rejected hr
  cases h with
  | ended tested few =>
    rw [← hfilter] at few ⊢
    exact .ended (tested_cons hr tested) few
  | @capped before after tested full =>
    change q.Walks ev cap ((r :: before) ++ after) (.ok (before.filter (q.wants ev)))
    rw [← hfilter] at full ⊢
    exact .capped (tested_cons hr tested) full
  | @failed before after s err tested few error =>
    change q.Walks ev cap ((r :: before) ++ s :: after) (.error (.evaluation err))
    rw [← hfilter] at few
    exact .failed (tested_cons hr tested) few error

/-- What a walk yields are records that it walked through, in their order, and accepted ones. -/
theorem of_ok {found : List Record} (h : q.Walks ev cap rs (.ok found)) :
    found.Sublist rs ∧ (∀ r ∈ found, q.accepts ev r = .ok true) ∧ found.length ≤ cap := by
  have haccepted (before : List Record) :
      ∀ r ∈ before.filter (q.wants ev), q.accepts ev r = .ok true := by
    intro r hr
    exact wants_iff.1 (List.mem_filter.1 hr).2
  cases h with
  | ended tested few => exact ⟨List.filter_sublist, haccepted rs, few⟩
  | @capped before after tested full =>
    have hsublist : (before.filter (q.wants ev)).Sublist (before ++ after) :=
      List.filter_sublist.trans (List.sublist_append_left before after)
    exact ⟨hsublist, haccepted before, Nat.le_of_eq full⟩

end Walks

variable (wrap : StoreError → ScanError)

theorem walks_walk (cap : Nat) (rs : List Record) :
    q.Walks ev cap rs (Cursor.walk (q.accepts ev) wrap cap (rs.map .ok)) := by
  induction rs generalizing cap with
  | nil =>
    have hwalk : Cursor.walk (q.accepts ev) wrap cap [] = .ok [] := by
      cases cap <;> rfl
    rw [List.map_nil, hwalk]
    exact .ended (fun r hr => absurd hr List.not_mem_nil) (Nat.zero_le cap)
  | cons r rs ih =>
    cases cap with
    | zero =>
      rw [Cursor.walk_zero]
      exact .capped (fun r hr => absurd hr List.not_mem_nil) rfl
    | succ cap =>
      rw [List.map_cons]
      cases hr : q.accepts ev r with
      | error err =>
        rw [Cursor.walk_of_error wrap hr]
        exact .failed (fun r hr => absurd hr List.not_mem_nil) (Nat.succ_pos cap) hr
      | ok b =>
        cases b with
        | true =>
          rw [Cursor.walk_of_accepted wrap hr]
          exact .accepted hr (ih cap)
        | false =>
          rw [Cursor.walk_of_rejected wrap hr]
          exact .rejected hr (ih (cap + 1))

/-- A walk that may yield more than is accepted of the first records goes on behind them. -/
theorem walk_append {before : List Record} (htested : ∀ r ∈ before, (q.accepts ev r).isOk = true)
    (n : Nat) (rs : List Record) :
    Cursor.walk (q.accepts ev) wrap ((before.filter (q.wants ev)).length + n)
        ((before ++ rs).map .ok) =
      (Cursor.walk (q.accepts ev) wrap n (rs.map .ok)).map (before.filter (q.wants ev) ++ ·) := by
  induction before with
  | nil =>
    rw [List.filter_nil, List.length_nil, Nat.zero_add, List.nil_append]
    cases Cursor.walk (q.accepts ev) wrap n (rs.map .ok) with
    | error err => rfl
    | ok found => rfl
  | cons r before ih =>
    obtain ⟨hr, hbefore⟩ := List.forall_mem_cons.1 htested
    replace ih := ih hbefore
    have haccepts := accepts_of_isOk hr
    rw [List.cons_append, List.map_cons]
    cases hwants : q.wants ev r with
    | true =>
      rw [hwants] at haccepts
      rw [filter_wants_of_accepted haccepts, List.length_cons, Nat.add_right_comm,
        Cursor.walk_of_accepted wrap haccepts, ih]
      cases Cursor.walk (q.accepts ev) wrap n (rs.map .ok) with
      | error err => rfl
      | ok found => rfl
    | false =>
      rw [hwants] at haccepts
      rw [filter_wants_of_rejected haccepts, ← ih]
      cases (before.filter (q.wants ev)).length + n with
      | zero => rw [Cursor.walk_zero, Cursor.walk_zero]
      | succ m => exact Cursor.walk_of_rejected wrap haccepts m _

/-- What a walk through records comes to. -/
theorem walks_iff :
    q.Walks ev cap rs outcome ↔ Cursor.walk (q.accepts ev) wrap cap (rs.map .ok) = outcome := by
  constructor
  · intro h
    cases h with
    | ended tested few =>
      have htests : ∀ r ∈ rs, q.accepts ev r = .ok (q.wants ev r) :=
        fun r hr => accepts_of_isOk (tested r hr)
      rw [Cursor.walk_map_ok wrap htests, List.take_of_length_le few]
    | @capped before after tested full =>
      have hwalk := walk_append wrap tested 0 after
      rw [full, Nat.add_zero, Cursor.walk_zero] at hwalk
      rw [hwalk]
      exact congrArg Except.ok (List.append_nil _)
    | @failed before after r err tested few error =>
      obtain ⟨n, rfl⟩ := Nat.exists_eq_add_of_lt few
      rw [Nat.add_assoc, walk_append wrap tested (n + 1), List.map_cons, Cursor.walk_of_error wrap error]
      rfl
  · rintro rfl
    exact walks_walk wrap cap rs

end Request

/-! ## Answers to a hint -/

/-- The current records that a query to an index wants, each of them once, in the order of the index. -/
structure IndexDescriptor.Lists (d : IndexDescriptor) (test : GeometryTest) (q : IndexQuery)
    (c : Collection) (rs : List Record) : Prop where
  mem : ∀ r, r ∈ rs ↔ r ∈ c.records.values ∧ q.Wants test d.type r
  different : (rs.map Record.key).Nodup
  ordered : rs.Pairwise d.Precedes

/-- A query wants no more records than there are. -/
theorem IndexDescriptor.Lists.length_le {d : IndexDescriptor} {test : GeometryTest} {q : IndexQuery}
    {c : Collection} {rs : List Record} (h : d.Lists test q c rs) : rs.length ≤ c.records.values.length := by
  have hsubset : rs ⊆ c.records.values := fun r hr => ((h.mem r).1 hr).1
  exact (List.subperm_of_subset (List.Nodup.of_map Record.key h.different) hsubset).length_le

/-- A query that a reachable store answers is answered with what the first index on its field lists. -/
theorem Store.Reachable.lists_of_query_eq_ok {s : Store} (hs : s.Reachable) {test : GeometryTest}
    {name : String} {q : IndexQuery} {source : Stream} (h : s.query test name q = .ok source) :
    ∃ c i ix rs, s.collections.get? name = some c ∧ c.FirstOn q.field i ix ∧
      ix.descriptor.Lists test q c rs ∧ source = .ofList (rs.map .ok) true := by
  obtain ⟨c, i, ix, keys, hc, hfirst, hlookup, hsource⟩ := Store.exists_of_query_eq_ok h
  have hconsistent := hs.consistent name c hc
  have hmirrors := hconsistent.mirrored i ix hfirst.get
  refine ⟨c, i, ix, _, hc, hfirst, ?_, hsource⟩
  by_cases hsupports : ix.descriptor.type.Supports q
  · obtain ⟨keys', hkeys', hfinds⟩ :=
      SecondaryIndex.lookup_of_mirrors test hmirrors (SecondaryIndex.answers_iff.2 hsupports)
    obtain rfl : keys' = keys := Except.ok.inj (hkeys'.symm.trans hlookup)
    exact ⟨Store.mem_filterMap_iff hfirst.on hsupports hfinds,
      Store.nodup_keys_filterMap hconsistent.keyed hfinds.nodup,
      SecondaryIndex.pairwise_lookup hconsistent.keyed hmirrors hlookup⟩
  · obtain ⟨fault, hfault⟩ := SecondaryIndex.lookup_of_not_supports hmirrors hsupports
    rw [hfault] at hlookup
    contradiction

/-! ## Scans with a hint -/

namespace Engine

variable {s : Store} {test : GeometryTest} {e : Engine} {q : Request} {hint : IndexQuery}

/-- What a hint leaves to evaluate is what the request asks. -/
theorem accepts_of_hint (hint : IndexQuery) (q : Request) (ev : Evaluator) :
    Plan.accepts ⟨some hint, q.tree⟩ ev = q.accepts ev := by
  unfold Plan.accepts Request.accepts
  cases q.tree with
  | none => rfl
  | some t => rfl

/-- A scan with a hint walks through the records that the hint was answered with. -/
theorem selectAll_eq_iff (hhint : q.hint = some hint)
    (hvalid : ∀ t, q.tree = some t → t.fault? = none) {rs : List Record} {counted : Bool}
    (hopen : e.reader.query q.collection hint = .ok (.ofList (rs.map .ok) counted))
    (outcome : Except ScanError (List Record)) :
    e.selectAll q = outcome ↔
      q.Walks e.evaluator (q.maxRecords.getD e.config.maxRecords.toNat) rs outcome := by
  have hplan : Plan.ofRequest e.catalog e.config q.collection q.tree q.hint = .ok ⟨some hint, q.tree⟩ := by
    rw [hhint]
    exact Plan.ofRequest_of_hint hvalid hint
  rw [selectAll_of_openPlan hplan hopen, Stream.items_ofList, accepts_of_hint]
  exact (Request.walks_iff _).symm

/-- A scan with a hint that storage accepts walks through the records that the hint wants, in the order of
    the index on its field, and tests them for the whole tree: it yields the accepted ones up to the cap, or
    the first error that is met before. What it yields are current records in the range of the hint that the
    whole tree accepts. If the tree can be evaluated on all records, and no more are accepted in the range
    than the cap admits, it yields all of them. -/
theorem selectAll_hinted (hs : s.Reachable) (hreader : e.reader = s.reader test)
    (hhint : q.hint = some hint) (hvalid : ∀ t, q.tree = some t → t.fault? = none) {source : Stream}
    (hopen : s.query test q.collection hint = .ok source) :
    let cap := q.maxRecords.getD e.config.maxRecords.toNat
    ∃ c i ix rs, s.collections.get? q.collection = some c ∧ c.FirstOn hint.field i ix ∧
      ix.descriptor.Lists test hint c rs ∧
      (∀ outcome, e.selectAll q = outcome ↔ q.Walks e.evaluator cap rs outcome) ∧
      (∀ found, e.selectAll q = .ok found → found.Sublist rs ∧
        ∀ r ∈ found, r ∈ c.records.values ∧ hint.Wants test ix.descriptor.type r ∧
          q.accepts e.evaluator r = .ok true) ∧
      ((∀ r ∈ c.records.values, (q.accepts e.evaluator r).isOk = true) →
        (rs.filter (q.wants e.evaluator)).length ≤ cap →
        ∃ found, e.selectAll q = .ok found ∧ ∀ r, r ∈ found ↔
          r ∈ c.records.values ∧ hint.Wants test ix.descriptor.type r ∧
            q.accepts e.evaluator r = .ok true) := by
  intro cap
  obtain ⟨c, i, ix, rs, hc, hfirst, hlists, rfl⟩ := hs.lists_of_query_eq_ok hopen
  have hquery : e.reader.query q.collection hint = .ok (.ofList (rs.map .ok) true) := by
    rw [hreader]
    exact hopen
  have hwalks := selectAll_eq_iff hhint hvalid hquery
  refine ⟨c, i, ix, rs, hc, hfirst, hlists, hwalks, fun found hfound => ?_, fun htested hfew => ?_⟩
  · obtain ⟨hsublist, haccepted, _⟩ := ((hwalks _).1 hfound).of_ok
    refine ⟨hsublist, fun r hr => ?_⟩
    obtain ⟨hcurrent, hwants⟩ := (hlists.mem r).1 (hsublist.subset hr)
    exact ⟨hcurrent, hwants, haccepted r hr⟩
  · have hin : ∀ r ∈ rs, (q.accepts e.evaluator r).isOk = true :=
      fun r hr => htested r ((hlists.mem r).1 hr).1
    refine ⟨_, (hwalks _).2 (.ended hin hfew), fun r => ?_⟩
    rw [List.mem_filter, hlists.mem, Request.wants_iff, and_assoc]

/-- A store with an index of numbers, where records hold an integer, a double or a text. -/
def tagged : Store :=
  Store.empty.updates
    [.createCollection "c", .createIndex "c" "i" "n" .numeric,
      .put "c" ⟨"a", .ofList [("n", .int 2), ("tag", .string "x")], 0, none⟩,
      .put "c" ⟨"b", .ofList [("n", .float ⟨0x3FF8000000000000⟩), ("tag", .string "y")], 0, none⟩,
      .put "c" ⟨"d", .ofList [("n", .int 3), ("tag", .string "x")], 0, none⟩,
      .put "c" ⟨"e", .ofList [("n", .string "2"), ("tag", .string "x")], 0, none⟩]

/-- The records with the tag `x`, of those with a number from 3/2 up to 3. -/
def hinting : Request where
  collection := "c"
  tree := some (.leaf ⟨"tag", .eq, .string "x", none, false, none, by rfl⟩)
  hint := some Store.mixedQuery
  maxRecords := none

/-- The tree accepts three records, of which one is in the range of the hint. There is no index on the tag,
    so that without the hint the scan would be barred. -/
theorem selectAll_hinted_tagged :
    ∃ c found, tagged.collections.get? "c" = some c ∧
      (c.records.values.filter (hinting.wants .containment)).map Record.key = ["a", "d", "e"] ∧
      (ofStore Geometry.holds tagged { scansEnabled := false }).selectAll hinting = .ok found ∧
      found.map Record.key = ["a"] ∧ ∀ r ∈ found, hinting.accepts .containment r = .ok true := by
  let e : Engine := ofStore Geometry.holds tagged { scansEnabled := false }
  let c : Collection := (tagged.collections.get? "c").getD {}
  have hs : tagged.Reachable := .updates .empty _
  have hc : tagged.collections.get? "c" = some c := by rfl
  have hvalid : ∀ t, hinting.tree = some t → t.fault? = none := by
    intro t ht
    cases ht
    rfl
  have hsome : (tagged.query .containment "c" Store.mixedQuery).isOk = true := by decide +kernel
  have htested : ∀ r ∈ c.records.values, (hinting.accepts .containment r).isOk = true := by
    decide +kernel
  have hkeys : (e.selectAll hinting).toOption.map (·.map Record.key) = some ["a"] := by
    decide +kernel
  have hlength : c.records.values.length = 4 := by decide +kernel
  cases hopen : tagged.query .containment "c" Store.mixedQuery with
  | error err =>
    rw [hopen] at hsome
    exact absurd hsome Bool.false_ne_true
  | ok source =>
    obtain ⟨c', i, ix, rs, hc', hfirst, hlists, -, haccepted, hall⟩ :=
      selectAll_hinted (e := e) (q := hinting) hs rfl rfl hvalid hopen
    obtain rfl : c' = c := Option.some.inj (hc'.symm.trans hc)
    have hfew : (rs.filter (hinting.wants .containment)).length ≤ 10000 := by
      have hfilter := List.length_filter_le (hinting.wants .containment) rs
      have hle := hlists.length_le
      omega
    obtain ⟨found, hfound, -⟩ := hall htested hfew
    rw [hfound] at hkeys
    exact ⟨c, found, hc, by decide +kernel, hfound, Option.some.inj hkeys,
      fun r hr => ((haccepted found hfound).2 r hr).2.2⟩

end Engine

end Quarry

-- SUMMARY: A scan yields the accepted records, whichever indexes there are.
import Quarry.Proofs.Scan.Pushing
import Quarry.Proofs.Scan.Splitting
import Quarry.Proofs.Scan.Walking
import Quarry.Proofs.Store.Querying
import Quarry.Scan.Engine

/-!
# Indexes do not show

Whatever is pushed, the stream that a plan opens has all records of the collection that the tree of
the request accepts, each of them once, and what the plan leaves to evaluate tells them from the
others. A scan therefore yields the accepted records, up to its cap.
-/

namespace Quarry

/-! ## Requests -/

namespace Request

/-- Whether a record satisfies the tree of a request. -/
def accepts (q : Request) (ev : Evaluator) (r : Record) : Except EvaluationError Bool :=
  match q.tree with
  | some t => ev.evaluate r t
  | none => .ok true

/-- Whether evaluation accepts a record, with an error for a no. -/
def wants (q : Request) (ev : Evaluator) (r : Record) : Bool :=
  match q.accepts ev r with
  | .ok b => b
  | .error _ => false

variable {q : Request} {ev : Evaluator} {r : Record}

theorem accepts_of_isOk (h : (q.accepts ev r).isOk = true) :
    q.accepts ev r = .ok (q.wants ev r) := by
  unfold wants
  cases haccepts : q.accepts ev r with
  | error e =>
    rw [haccepts] at h
    contradiction
  | ok b => rfl

theorem wants_iff : q.wants ev r = true ↔ q.accepts ev r = .ok true := by
  unfold wants
  cases q.accepts ev r with
  | error e => simp
  | ok b => simp

end Request

/-! ## Candidates -/

/-- Current records, each of them once, and among them all that are wanted. -/
structure Candidates (records : SortedMap String Record) (wants : Record → Bool)
    (rs : List Record) : Prop where
  nodup : rs.Pairwise fun a b => a.key ≠ b.key
  current : ∀ r ∈ rs, records.get? r.key = some r
  complete : ∀ s r, records.get? s = some r → wants r = true → r ∈ rs

namespace Candidates

variable {records : SortedMap String Record} {wants : Record → Bool} {rs ts : List Record}

/-- All records of a collection. -/
theorem values (hkeys : ∀ s r, records.get? s = some r → r.key = s) :
    Candidates records wants records.values where
  nodup := by
    unfold SortedMap.values
    rw [List.pairwise_map]
    refine List.Pairwise.imp_of_mem ?_ records.ascending
    intro d e hd he hlt
    rw [hkeys d.1 d.2 (SortedMap.get?_eq_some_iff.2 hd),
      hkeys e.1 e.2 (SortedMap.get?_eq_some_iff.2 he)]
    exact SortedMap.ne_of_compare_lt hlt
  current r hr := by
    obtain ⟨s, hs⟩ := SortedMap.mem_values_iff.1 hr
    rw [hkeys s r hs]
    exact hs
  complete s r hr _ := SortedMap.mem_values_iff.2 ⟨s, hr⟩

/-- The records under the keys that an index finds. -/
theorem filterMap (hkeys : ∀ s r, records.get? s = some r → r.key = s) {keys : List String}
    (hnodup : keys.Nodup)
    (hcomplete : ∀ s r, records.get? s = some r → wants r = true → s ∈ keys) :
    Candidates records wants (keys.filterMap records.get?) where
  nodup := List.pairwise_map.1 (Store.nodup_keys_filterMap hkeys hnodup)
  current r hr := by
    obtain ⟨s, _, hs⟩ := List.mem_filterMap.1 hr
    rw [hkeys s r hs]
    exact hs
  complete s r hr hwants := List.mem_filterMap.2 ⟨s, hcomplete s r hr hwants, hr⟩

/-- The wanted ones among different candidates are the same records. -/
theorem filter_perm (h : Candidates records wants rs) (k : Candidates records wants ts) :
    (rs.filter wants).Perm (ts.filter wants) := by
  have hnodup {rs : List Record} (h : Candidates records wants rs) : (rs.filter wants).Nodup :=
    (h.nodup.imp fun {_ _} hne heq => hne (congrArg Record.key heq)).filter _
  apply (List.perm_ext_iff_of_nodup (hnodup h) (hnodup k)).2
  intro r
  rw [List.mem_filter, List.mem_filter]
  constructor
  · rintro ⟨hr, hwants⟩
    exact ⟨k.complete _ r (h.current r hr) hwants, hwants⟩
  · rintro ⟨hr, hwants⟩
    exact ⟨h.complete _ r (k.current r hr) hwants, hwants⟩

end Candidates

/-! ## Streams -/

/-- The engine over a store that is also its catalog. -/
def Engine.onStore (test : GeometryTest) (s : Store) (config : Config) (ev : Evaluator) : Engine :=
  ⟨s.reader test, s.catalog, config, ev⟩

/-- The engine whose evaluator tests points as the indexes of the store do. -/
def Engine.ofStore (inside : PointTest) (s : Store) (config : Config) : Engine :=
  onStore (.ofPoints inside) s config (.ofPoints inside)

/-- The plan for a tree that may be absent, without regard to policy. -/
def Plan.free (catalog : Catalog) (collection : String) (tree : Option PredicateTree) : Plan :=
  match tree with
  | some t => ofTree catalog collection t
  | none => fullScan

/-- A request without a hint runs its free plan, if policy allows. -/
theorem Plan.ofRequest_of_valid {catalog : Catalog} {config : Config} {collection : String}
    {tree : Option PredicateTree} (h : ∀ t, tree = some t → t.fault? = none) :
    ofRequest catalog config collection tree none =
      if (free catalog collection tree).isFullScan && !config.scansEnabled then
        .error (.scansDisabled collection)
      else .ok (free catalog collection tree) := by
  cases tree with
  | none => rfl
  | some t =>
    have hvalid : (some t).bind PredicateTree.fault? = none := h t rfl
    unfold ofRequest
    rw [hvalid]
    rfl

/-- A hint is pushed as it is and leaves the whole tree, whatever policy says. -/
theorem Plan.ofRequest_of_hint {catalog : Catalog} {config : Config} {collection : String}
    {tree : Option PredicateTree} (h : ∀ t, tree = some t → t.fault? = none) (hint : IndexQuery) :
    ofRequest catalog config collection tree (some hint) = .ok ⟨some hint, tree⟩ := by
  have hvalid : tree.bind PredicateTree.fault? = none := Option.bind_eq_none_iff.2 h
  unfold ofRequest
  rw [hvalid]
  rfl

namespace Engine

/-- The stream of a plan has the wanted records, and the plan tells them from the others. -/
structure Opens (e : Engine) (collection : String) (plan : Plan)
    (records : SortedMap String Record) (wants : Record → Bool) (rs : List Record) : Prop where
  stream : ∃ counted, e.openPlan collection plan = .ok (.ofList (rs.map .ok) counted)
  candidates : Candidates records wants rs
  decides : ∀ r ∈ rs, plan.accepts e.evaluator r = .ok (wants r)

variable {inside : PointTest} {s : Store} {q : Request} {c : Collection} (config : Config)

/-- A plan that pushes nothing and leaves the whole tree reads all records. -/
theorem opens_scan (hs : s.Reachable) (hc : s.collections.get? q.collection = some c)
    (hok : ∀ r ∈ c.records.values, (q.accepts (.ofPoints inside) r).isOk = true) {plan : Plan}
    (hpushed : plan.pushed = none)
    (haccepts : ∀ r, plan.accepts (.ofPoints inside) r = q.accepts (.ofPoints inside) r) :
    (ofStore inside s config).Opens q.collection plan c.records (q.wants (.ofPoints inside))
      c.records.values where
  stream := by
    refine ⟨true, ?_⟩
    rw [openPlan, Plan.opening_of_unpushed hpushed]
    exact Store.scan_eq_ok hc
  candidates := Candidates.values (hs.consistent _ c hc).keyed
  decides r hr := by
    have hwants := Request.accepts_of_isOk (hok r hr)
    exact (haccepts r).trans hwants

/-- A plan that splits the tree reads the records that the index finds. -/
theorem opens_split (hs : s.Reachable) (hc : s.collections.get? q.collection = some c)
    (hok : ∀ r ∈ c.records.values, (q.accepts (.ofPoints inside) r).isOk = true)
    (hdouble : ∀ ix ∈ c.indexes.values, ∀ r ∈ c.records.values,
      ix.descriptor.NoDoubleIn r)
    {t : PredicateTree} (ht : q.tree = some t) {plan : Plan} {p : Predicate} {d : Pushdown}
    (hsplits : plan.Splits s.catalog q.collection t p d) :
    ∃ rs, (ofStore inside s config).Opens q.collection plan c.records (q.wants (.ofPoints inside)) rs := by
  have haccepts (r : Record) : q.accepts (.ofPoints inside) r = (Evaluator.ofPoints inside).evaluate r t := by
    rw [Request.accepts, ht]
  obtain ⟨hcase, hmetadata, d', hcatalog, hpushes⟩ := Plan.pushesTo_of_pushdown? hsplits.pushdown
  obtain ⟨i, ix, hi, hix, rfl, hfield⟩ := Store.catalog_eq_some hc hcatalog
  have hkeyed := (hs.consistent _ c hc).keyed
  have hmirrors := (hs.consistent _ c hc).mirrored i ix hi
  have hpath (r : Record) : r.resolve? p.field = r.atPath? ix.descriptor.field := by
    rw [hfield]
    exact Record.resolve?_of_not_metadata hmetadata r
  have hno {s : String} {r : Record} (hr : c.records.get? s = some r) :
      ix.descriptor.NoDoubleIn r :=
    hdouble ix (SortedMap.mem_values_iff.2 ⟨i, hi⟩) r (SortedMap.mem_values_iff.2 ⟨s, hr⟩)
  obtain ⟨keys, hlookup, hnodup, hmem⟩ :=
    SecondaryIndex.lookup_of_mirrors (.ofPoints inside) hmirrors hpushes.answers
  refine ⟨keys.filterMap c.records.get?, ⟨true, ?_⟩, ?_, ?_⟩
  · rw [openPlan, Plan.opening_of_pushed hsplits.pushed]
    exact Store.query_eq_ok hc (hpushes.field_eq ▸ hix) hlookup
  · refine Candidates.filterMap hkeyed hnodup fun s r hr hwants => (hmem s).2 ⟨r, hr, ?_⟩
    -- a record that the tree accepts is accepted by each of its conjuncts
    rw [Request.wants_iff, haccepts] at hwants
    exact hpushes.selects_of_accepted (hpath r) hcase (hno hr) (hsplits.conjunct.accepts hwants)
  · intro r hr
    obtain ⟨s, hs, hget⟩ := List.mem_filterMap.1 hr
    obtain ⟨r', hr', hselects⟩ := (hmem s).1 hs
    obtain rfl := Option.some.inj (hr'.symm.trans hget)
    have hwants := Request.accepts_of_isOk (hok r' (SortedMap.mem_values_iff.2 ⟨s, hget⟩))
    rw [← hwants, haccepts]
    cases hexact : d.exact with
    | true =>
      exact hsplits.residual _ r'
        (hpushes.accepted_of_selects hexact (hpath r') hcase (hno hget) hselects)
    | false =>
      unfold Plan.accepts
      rw [hsplits.whole hexact]
      rfl

/-- The free plan of a request opens a stream with the records that the request wants. -/
theorem opens_free (hs : s.Reachable) (hc : s.collections.get? q.collection = some c)
    (hok : ∀ r ∈ c.records.values, (q.accepts (.ofPoints inside) r).isOk = true)
    (hdouble : ∀ ix ∈ c.indexes.values, ∀ r ∈ c.records.values,
      ix.descriptor.NoDoubleIn r) :
    ∃ rs, (ofStore inside s config).Opens q.collection (Plan.free s.catalog q.collection q.tree) c.records
      (q.wants (.ofPoints inside)) rs := by
  cases ht : q.tree with
  | none =>
    refine ⟨_, opens_scan config hs hc hok rfl ?_⟩
    intro r
    rw [Request.accepts, ht]
    rfl
  | some t =>
    rcases Plan.ofTree_cases s.catalog q.collection t with hplan | ⟨p, d, hsplits⟩
    · rw [Plan.free, hplan]
      refine ⟨_, opens_scan config hs hc hok rfl ?_⟩
      intro r
      rw [Request.accepts, ht]
      rfl
    · exact opens_split config hs hc hok hdouble ht hsplits

omit config in
/-- A scan over a stream of candidates yields the first of those that are wanted. -/
theorem selectAll_eq_ok {e : Engine} {plan : Plan} {records : SortedMap String Record}
    {wants : Record → Bool} {rs : List Record}
    (hplan : Plan.ofRequest e.catalog e.config q.collection q.tree q.hint = .ok plan)
    (hopens : e.Opens q.collection plan records wants rs) :
    e.selectAll q = .ok ((rs.filter wants).take (q.maxRecords.getD e.config.maxRecords.toNat)) := by
  obtain ⟨counted, hstream⟩ := hopens.stream
  rw [selectAll_of_openPlan hplan hstream, Stream.items_ofList]
  exact Cursor.walk_map_ok _ hopens.decides _

/-- Indexes do not show in the records of a scan without a hint. If the tree can be evaluated on every
    record and no double is under an index of numbers, the scan yields different records, all current
    and accepted, and as many as there are or the cap admits; it fails only if scans are disabled. -/
theorem selectAll_transparent (hs : s.Reachable)
    (hc : s.collections.get? q.collection = some c) (hhint : q.hint = none)
    (hvalid : ∀ t, q.tree = some t → t.fault? = none)
    (hok : ∀ r ∈ c.records.values, (q.accepts (.ofPoints inside) r).isOk = true)
    (hdouble : ∀ ix ∈ c.indexes.values, ∀ r ∈ c.records.values,
      ix.descriptor.NoDoubleIn r) :
    let cap := q.maxRecords.getD config.maxRecords.toNat
    let wanted := c.records.values.filter (q.wants (.ofPoints inside))
    (config.scansEnabled = false ∧
      (ofStore inside s config).selectAll q = .error (.scansDisabled q.collection)) ∨
    ∃ rs, (ofStore inside s config).selectAll q = .ok rs ∧ rs.Pairwise (fun a b => a.key ≠ b.key) ∧
      (∀ r ∈ rs, r ∈ wanted) ∧ rs.length = min cap wanted.length ∧
      (wanted.length ≤ cap → rs.Perm wanted) := by
  intro cap wanted
  have hplan : Plan.ofRequest s.catalog config q.collection q.tree q.hint = _ :=
    hhint ▸ Plan.ofRequest_of_valid hvalid
  cases hguard : (Plan.free s.catalog q.collection q.tree).isFullScan && !config.scansEnabled with
  | true =>
    rw [hguard, if_pos rfl] at hplan
    refine .inl ⟨by simpa using (Bool.and_eq_true_iff.1 hguard).2, ?_⟩
    unfold selectAll
    rw [select_of_refused (e := ofStore inside s config) hplan]
    rfl
  | false =>
    rw [hguard, if_neg Bool.false_ne_true] at hplan
    obtain ⟨rs, hopens⟩ := opens_free config hs hc hok hdouble
    have hperm := hopens.candidates.filter_perm (Candidates.values (hs.consistent _ c hc).keyed)
    have hall := selectAll_eq_ok (e := ofStore inside s config) hplan hopens
    have hsublist : ((rs.filter (q.wants (.ofPoints inside))).take cap).Sublist rs :=
      (List.take_sublist _ _).trans List.filter_sublist
    refine .inr ⟨_, hall, hopens.candidates.nodup.sublist hsublist, ?_, ?_, ?_⟩
    · intro r hr
      exact hperm.mem_iff.1 (List.mem_of_mem_take hr)
    · rw [List.length_take, hperm.length_eq]
      rfl
    · intro hle
      rw [← hperm.length_eq] at hle
      have htake : (rs.filter (q.wants (.ofPoints inside))).take cap =
          rs.filter (q.wants (.ofPoints inside)) := List.take_of_length_le hle
      exact (List.Perm.of_eq htake).trans hperm

/-- A store with an index of numbers, and two records that it has under one key. -/
def indexed : Store :=
  Store.empty.updates
    [.createCollection "c", .createIndex "c" "i" "n" .numeric,
      .put "c" ⟨"a", .ofList [("n", .int 1), ("t", .string "x")], 0, none⟩,
      .put "c" ⟨"b", .ofList [("n", .int 2)], 0, none⟩,
      .put "c" ⟨"d", .ofList [("n", .int 1), ("t", .string "y")], 0, none⟩]

/-- The records with `y` as `t` and 1 as `n`. The second condition is pushed. -/
def pushing : Request where
  collection := "c"
  tree := some (.branch .and [.leaf ⟨"t", .eq, .string "y", none, false, none, by rfl⟩,
    .leaf ⟨"n", .eq, .int 1, none, false, none, by rfl⟩])
  hint := none
  maxRecords := some 5

theorem selectAll_transparent_indexed :
    ∃ c rs, indexed.collections.get? "c" = some c ∧
      (∀ r ∈ c.records.values, (pushing.accepts .containment r).isOk = true) ∧
      (∀ ix ∈ c.indexes.values, ∀ r ∈ c.records.values, ix.descriptor.NoDoubleIn r) ∧
      (ofStore Geometry.holds indexed {}).selectAll pushing = .ok rs ∧
      (∀ r ∈ rs, r ∈ c.records.values.filter (pushing.wants .containment)) ∧ rs.length = 1 := by
  have hs : indexed.Reachable := Store.Reachable.updates .empty _
  let c : Collection := (indexed.collections.get? "c").getD {}
  have hc : indexed.collections.get? "c" = some c := by rfl
  have hvalid : ∀ t, pushing.tree = some t → t.fault? = none := by
    intro t ht
    cases ht
    rfl
  have hok : ∀ r ∈ c.records.values, (pushing.accepts .containment r).isOk = true := by
    decide +kernel
  have hdouble : ∀ ix ∈ c.indexes.values, ∀ r ∈ c.records.values, ix.descriptor.NoDoubleIn r := by
    decide +kernel
  have hwanted : (c.records.values.filter (pushing.wants .containment)).length = 1 := by
    decide +kernel
  rcases selectAll_transparent (q := pushing) {} hs hc rfl hvalid hok hdouble with
    ⟨hdisabled, _⟩ | ⟨rs, hall, _, hin, hlength, _⟩
  · contradiction
  · have hone : rs.length = min 5 1 := hwanted ▸ hlength
    exact ⟨c, rs, hc, hok, hdouble, hall, hin, hone⟩

end Engine

end Quarry

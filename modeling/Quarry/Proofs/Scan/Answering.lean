-- SUMMARY: What is pushed to the store that was the catalog can be answered by it.
import Quarry.Proofs.Scan.Driving
import Quarry.Proofs.Scan.Transparency
import Quarry.Proofs.Store.Changes

/-!
# Plans that a store can answer

The plan is made from the description of an index, and the store looks for an index again when the query
comes. In a reachable store the description is that of the index that the store finds: both are the first one
on the field, and an index goes by the name and the collection that it was created with. The query fits its
type, so it is answered. A scan without a hint can then fail in the store only where there is no collection,
and a stream that was opened has records only, so nothing fails in the store later.
-/

namespace Quarry

/-! ## Labels of indexes -/

/-- The indexes go by the names that their descriptions give, and belong to the collection of this name. -/
def Collection.Labelled (name : String) (c : Collection) : Prop :=
  ∀ i ix, c.indexes.get? i = some ix → ix.descriptor.name = i ∧ ix.descriptor.collection = name

theorem Collection.Change.labelled {name : String} {c d : Collection} (h : c.Change name d)
    (hc : c.Labelled name) : d.Labelled name := by
  intro i ix hix
  cases h with
  | put r =>
    rw [indexes_put] at hix
    obtain ⟨old, hold, rfl⟩ := Option.map_eq_some_iff.1 hix
    rw [SecondaryIndex.descriptor_insert]
    cases c.records.get? r.key with
    | none => exact hc i old hold
    | some previous =>
      rw [Option.map_some, Option.getD_some, SecondaryIndex.descriptor_remove]
      exact hc i old hold
  | delete key hd =>
    unfold delete? at hd
    obtain ⟨previous, -, rfl⟩ := Option.map_eq_some_iff.1 hd
    rw [SortedMap.get?_mapValues] at hix
    obtain ⟨old, hold, rfl⟩ := Option.map_eq_some_iff.1 hix
    rw [SecondaryIndex.descriptor_remove]
    exact hc i old hold
  | addIndex index field type =>
    rcases SortedMap.get?_insert_eq_some_iff.1 hix with ⟨rfl, rfl⟩ | ⟨-, hold⟩
    · rw [SecondaryIndex.descriptor_ofRecords]
      exact ⟨rfl, rfl⟩
    · exact hc i ix hold
  | dropIndex index hd =>
    unfold dropIndex? at hd
    split at hd
    · obtain rfl := Option.some.inj hd
      exact hc i ix (SortedMap.get?_erase_eq_some_iff.1 hix).2
    · contradiction

theorem Store.Reachable.labelled {s : Store} (hs : s.Reachable) {name : String} {c : Collection}
    (hc : s.collections.get? name = some c) : c.Labelled name := by
  refine hs.collections (P := Collection.Labelled) (fun name i ix hix => ?_) ?_ name c hc
  · rw [SortedMap.get?_empty] at hix
    contradiction
  · intro name c d hchange
    exact hchange.labelled

/-! ## Answers -/

/-- The store answers the query with the index that its catalog reports. -/
structure Store.AnswersBy (s : Store) (test : GeometryTest) (name : String) (query : IndexQuery)
    (c : Collection) (ix : SecondaryIndex) (keys : List String) : Prop where
  collection : s.collections.get? name = some c
  reported : s.catalog name query.field = some ix.descriptor
  /-- It goes by the reported name, in the collection that was reported. -/
  named : c.indexes.get? ix.descriptor.name = some ix ∧ ix.descriptor.collection = name
  chosen : c.indexOn? query.field = some ix
  lookup : ix.lookup test query = .ok keys
  answer : s.query test name query = .ok (.ofList ((keys.filterMap c.records.get?).map .ok) true)

variable {s : Store}

/-- A predicate that the planner pushes is answered. -/
theorem Store.Reachable.answersBy_of_pushdown? (hs : s.Reachable) (test : GeometryTest) {name : String}
    {p : Predicate} {d : Pushdown} (h : Plan.pushdown? s.catalog name p = some d) :
    ∃ c ix keys, s.AnswersBy test name d.query c ix keys := by
  obtain ⟨-, -, descriptor, hcatalog, hpushes⟩ := Plan.pushesTo_of_pushdown? h
  obtain ⟨c, hc, -⟩ := Option.bind_eq_some_iff.1 hcatalog
  obtain ⟨i, ix, hi, hix, rfl, -⟩ := Store.catalog_eq_some hc hcatalog
  obtain ⟨hname, hcollection⟩ := hs.labelled hc i ix hi
  have hmirrors := (hs.consistent name c hc).mirrored i ix hi
  obtain ⟨keys, hlookup, -⟩ := SecondaryIndex.lookup_of_mirrors test hmirrors hpushes.answers
  rw [← hpushes.field_eq] at hcatalog hix
  exact ⟨c, ix, keys, hc, hcatalog, ⟨hname ▸ hi, hcollection⟩, hix, hlookup,
    Store.query_eq_ok hc hix hlookup⟩

/-- Planning without a hint gives the free plan of the tree, if it gives one. -/
theorem Plan.eq_free_of_ofRequest {catalog : Catalog} {config : Config} {name : String}
    {tree : Option PredicateTree} {plan : Plan}
    (h : ofRequest catalog config name tree none = .ok plan) : plan = free catalog name tree := by
  cases hfault : tree.bind PredicateTree.fault? with
  | some e => simp [ofRequest, hfault] at h
  | none =>
    have hvalid : ∀ t, tree = some t → t.fault? = none := by
      rintro t rfl
      exact hfault
    rw [ofRequest_of_valid hvalid] at h
    split at h
    · contradiction
    · exact (Except.ok.inj h).symm

/-- Whatever planning pushes is answered. -/
theorem Store.Reachable.answersBy_of_ofRequest (hs : s.Reachable) (test : GeometryTest) {config : Config}
    {name : String} {tree : Option PredicateTree} {plan : Plan} {query : IndexQuery}
    (hplan : Plan.ofRequest s.catalog config name tree none = .ok plan)
    (hpushed : plan.pushed = some query) : ∃ c ix keys, s.AnswersBy test name query c ix keys := by
  obtain rfl := Plan.eq_free_of_ofRequest hplan
  cases tree with
  | none => contradiction
  | some t =>
    rcases Plan.ofTree_cases s.catalog name t with hscan | ⟨p, d, hsplits⟩
    · rw [Plan.free, hscan] at hpushed
      contradiction
    · obtain rfl : d.query = query := Option.some.inj (hsplits.pushed.symm.trans hpushed)
      exact hs.answersBy_of_pushdown? test hsplits.pushdown

/-! ## Streams of records -/

/-- A failure to read. -/
def ScanError.OfStorage (e : ScanError) : Prop :=
  ∃ name filter source, e = .storage name filter source

/-- No item of the stream is an error. -/
def Stream.Faultless (t : Stream) : Prop :=
  ∀ item ∈ t.items, ∃ r, item = .ok r

theorem Stream.faultless_ofList (rs : List Record) (counted : Bool) :
    (ofList (rs.map .ok) counted).Faultless := by
  intro item hitem
  rw [items_ofList] at hitem
  obtain ⟨r, -, rfl⟩ := List.mem_map.1 hitem
  exact ⟨r, rfl⟩

namespace Cursor

/-- What the cursor has still to read are records. -/
def Faultless (c : Cursor) : Prop :=
  ∀ t, c.source = some t → t.Faultless

variable {c : Cursor}

theorem faultless_of_released (h : c.source = none) : c.Faultless := by
  intro t ht
  rw [h] at ht
  contradiction

theorem faultless_yielding {left : Stream} (h : left.Faultless) : (c.yielding left).Faultless := by
  rcases c.yielding_cases left with ⟨-, hend⟩ | ⟨-, hopen⟩
  · exact faultless_of_released (by rw [hend])
  · intro t ht
    rw [hopen] at ht
    cases ht
    exact h

/-- A record can fail to be tested, but not to be read. -/
theorem not_ofStorage_of_verdict? {r : Record} {e : ScanError}
    (h : verdict? c.accepts c.storageError (.ok r) = some (.error e)) : ¬ e.OfStorage := by
  rintro ⟨name, filter, source, rfl⟩
  cases haccepts : c.accepts r with
  | error fault => simp [verdict?_of_error haccepts] at h
  | ok b => cases b <;> simp [verdict?, haccepts] at h

/-- Pulling from a stream of records leaves a stream of records, and does not fail to read. -/
theorem Pulls.faultless {t : Stream} {u : Step} (h : c.Pulls t.counted t.items u) (ht : t.Faultless) :
    u.cursor.Faultless ∧ ∀ e, u.item = some (.error e) → ¬ e.OfStorage := by
  cases h with
  | exhausted => exact ⟨faultless_of_released rfl, by simp⟩
  | @failed passed item e left rejected error found =>
    obtain ⟨r, rfl⟩ : ∃ r, item = .ok r := ht item (by simp [found])
    refine ⟨faultless_of_released rfl, ?_⟩
    rintro _ ⟨⟩
    exact not_ofStorage_of_verdict? error
  | @accepted passed r left rejected accepted counts found =>
    have hleft : left.Faultless := fun item hitem => ht item (by simp [found, hitem])
    exact ⟨faultless_yielding hleft, by simp⟩

theorem Faultless.next (h : c.Faultless) :
    c.next.1.Faultless ∧ ∀ e, c.next.2 = some (.error e) → ¬ e.OfStorage := by
  have hmakes := c.makes_step
  unfold Cursor.next
  generalize c.step = u at hmakes ⊢
  cases hmakes with
  | ended => exact ⟨h, by simp⟩
  | full | released => exact ⟨faultless_of_released rfl, by simp⟩
  | cancelled =>
    refine ⟨faultless_of_released rfl, ?_⟩
    rintro _ heq ⟨name, filter, source, rfl⟩
    simp at heq
  | @pulled t u running room wanted source pulls => exact pulls.faultless (h t source)

theorem Faultless.move (h : c.Faultless) (m : Move) : (c.move m).Faultless := by
  cases m with
  | next => exact h.next.1
  | cancel => exact h

theorem Faultless.drive (h : c.Faultless) (ms : List Move) : (c.drive ms).Faultless := by
  induction ms generalizing c with
  | nil => exact h
  | cons m ms ih => exact ih (h.move m)

theorem Faultless.drain (h : c.Faultless) (fuel : Nat) (taken : List Record) {e : ScanError}
    (he : c.drain fuel taken = .error e) : ¬ e.OfStorage := by
  induction fuel generalizing c taken with
  | zero => contradiction
  | succ fuel ih =>
    obtain ⟨hnext, hitem⟩ := h.next
    unfold Cursor.drain at he
    split at he
    · contradiction
    · next e' heq =>
      obtain rfl := Except.error.inj he
      exact hitem e' (by rw [heq])
    · next c' r heq =>
      rw [heq] at hnext
      exact ih hnext _ he

end Cursor

/-! ## Scans -/

/-- Planning never fails in storage. -/
theorem Plan.not_ofStorage_of_ofRequest {catalog : Catalog} {config : Config} {name : String}
    {tree : Option PredicateTree} {hint : Option IndexQuery} {e : ScanError}
    (h : ofRequest catalog config name tree hint = .error e) : ¬ e.OfStorage := by
  rintro ⟨_, _, _, rfl⟩
  unfold ofRequest at h
  split at h
  · simp at h
  · -- whichever plan it is, only policy can refuse it
    dsimp only at h
    split at h
    all_goals split at h <;> simp at h

namespace Engine

/-- A scan that fails in storage had a plan, and the store did not open the stream for it. -/
theorem select_eq_storage {e : Engine} {q : Request} {name : String} {filter : Option String}
    {source : StoreError} (h : e.select q = .error (.storage name filter source)) :
    ∃ plan, Plan.ofRequest e.catalog e.config q.collection q.tree q.hint = .ok plan ∧
      e.openPlan q.collection plan = .error source := by
  cases hplan : Plan.ofRequest e.catalog e.config q.collection q.tree q.hint with
  | error err =>
    rw [select_of_refused hplan] at h
    obtain rfl := Except.error.inj h
    exact absurd ⟨name, filter, source, rfl⟩ (Plan.not_ofStorage_of_ofRequest hplan)
  | ok plan =>
    rw [select_of_planned hplan] at h
    refine ⟨plan, rfl, ?_⟩
    cases hopen : e.openPlan q.collection plan with
    | ok t =>
      rw [hopen] at h
      contradiction
    | error err =>
      rw [hopen] at h
      obtain ⟨-, -, rfl⟩ := ScanError.storage.inj (Except.error.inj h)
      rfl

variable {q : Request} (test : GeometryTest) (config : Config) (ev : Evaluator)

/-- The store opens a stream of records for a plan, unless the collection is missing. -/
theorem openPlan_of_ofRequest (hs : s.Reachable) {plan : Plan}
    (hplan : Plan.ofRequest s.catalog config q.collection q.tree none = .ok plan) :
    (∃ t, (onStore test s config ev).openPlan q.collection plan = .ok t ∧ t.Faultless) ∨
      (s.collections.get? q.collection = none ∧ (onStore test s config ev).openPlan q.collection plan =
        .error (.collectionNotFound q.collection)) := by
  unfold openPlan
  cases hpushed : plan.pushed with
  | some query =>
    rw [Plan.opening_of_pushed hpushed]
    obtain ⟨c, ix, keys, hanswers⟩ := hs.answersBy_of_ofRequest test hplan hpushed
    exact .inl ⟨_, hanswers.answer, Stream.faultless_ofList _ _⟩
  | none =>
    rw [Plan.opening_of_unpushed hpushed]
    cases hc : s.collections.get? q.collection with
    | some c => exact .inl ⟨_, Store.scan_eq_ok hc, Stream.faultless_ofList _ _⟩
    | none =>
      refine .inr ⟨rfl, ?_⟩
      have hmissing : s.collection q.collection = .error (.collectionNotFound q.collection) := by
        unfold Store.collection
        rw [hc]
      change s.scan q.collection = _
      rw [Store.scan, hmissing]
      rfl

/-- Over a reachable store that is also the catalog, a scan without a hint fails in storage only where
    the collection is missing. Every query that planning pushes is answered by the very index that the
    catalog reported. A cursor, driven in any way or read to its end, never fails in storage. -/
theorem select_answerable (hs : s.Reachable) (hhint : q.hint = none) :
    (∀ name filter source, (onStore test s config ev).select q = .error (.storage name filter source) →
      source = .collectionNotFound q.collection ∧ s.collections.get? q.collection = none) ∧
    (∀ plan query, Plan.ofRequest s.catalog config q.collection q.tree q.hint = .ok plan →
      plan.pushed = some query → ∃ c ix keys, s.AnswersBy test q.collection query c ix keys) ∧
    (∀ c, (onStore test s config ev).select q = .ok c →
      (∀ ms e, (c.drive ms).next.2 = some (.error e) → ¬ e.OfStorage) ∧
      ∀ e, c.records = .error e → ¬ e.OfStorage) := by
  refine ⟨fun name filter source h => ?_, fun plan query hplan hpushed => ?_, fun c hc => ?_⟩
  · obtain ⟨plan, hplan, hopen⟩ := select_eq_storage h
    rw [hhint] at hplan
    rcases openPlan_of_ofRequest test config ev hs hplan with ⟨t, hok, -⟩ | ⟨hmissing, herror⟩
    · rw [hok] at hopen
      contradiction
    · rw [herror] at hopen
      exact ⟨(Except.error.inj hopen).symm, hmissing⟩
  · rw [hhint] at hplan
    exact hs.answersBy_of_ofRequest test hplan hpushed
  · obtain ⟨plan, source, hplan, hopen, rfl⟩ := select_eq_ok hc
    rw [hhint] at hplan
    have hfaultless : source.Faultless := by
      rcases openPlan_of_ofRequest test config ev hs hplan with ⟨t, hok, ht⟩ | ⟨-, herror⟩
      · rw [hok] at hopen
        exact Except.ok.inj hopen ▸ ht
      · rw [herror] at hopen
        contradiction
    have hstart : (Cursor.start q.collection ev (q.maxRecords.getD config.maxRecords.toNat) plan
        source).Faultless := by
      rintro t ⟨rfl⟩
      exact hfaultless
    exact ⟨fun ms => (hstart.drive ms).next.2, fun e he => hstart.drain _ _ he⟩

/-- A store with two indexes on one field, one of numbers and one of texts. -/
def overlapping : Store :=
  Store.empty.updates
    [.createCollection "c", .createIndex "c" "i" "size" .numeric, .createIndex "c" "j" "size" .string,
      .put "c" ⟨"a", .ofList [("size", .int 1)], 0, none⟩,
      .put "c" ⟨"b", .ofList [("size", .string "x")], 0, none⟩]

/-- The records of a collection with a positive `size`. -/
def positive (collection : String) : Request where
  collection
  tree := some (.leaf ⟨"size", .gt, .int 0, none, false, none, rfl⟩)
  hint := none
  maxRecords := none

theorem select_answerable_overlapping :
    (∃ query c ix keys, overlapping.AnswersBy .containment "c" query c ix keys ∧
      ix.descriptor.name = "i") ∧
    (∃ c, (onStore .containment overlapping {} .containment).select (positive "c") = .ok c ∧
      ∀ e, c.records = .error e → ¬ e.OfStorage) ∧
    ∃ source, (onStore .containment overlapping {} .containment).select (positive "d") =
      .error (.storage "d" none source) ∧ source = .collectionNotFound "d" := by
  have hs : overlapping.Reachable := Store.Reachable.updates .empty _
  obtain ⟨-, hanswered, hdriven⟩ :=
    select_answerable .containment {} .containment hs (q := positive "c") rfl
  obtain ⟨hmissing, -, -⟩ :=
    select_answerable .containment {} .containment hs (q := positive "d") rfl
  refine ⟨?_, ?_, ?_⟩
  · have hplan : Plan.ofRequest overlapping.catalog {} "c" (positive "c").tree none =
        .ok ⟨some ⟨"size", .gt, .int 0, none⟩, none⟩ := by rfl
    obtain ⟨c, ix, keys, h⟩ := hanswered _ _ hplan rfl
    have hreported : overlapping.catalog "c" "size" = some ⟨"c", "i", "size", .numeric⟩ := by rfl
    have hdescriptor := Option.some.inj (h.reported.symm.trans hreported)
    exact ⟨_, c, ix, keys, h, congrArg IndexDescriptor.name hdescriptor⟩
  · obtain ⟨c, hc⟩ : ∃ c,
        (onStore .containment overlapping {} .containment).select (positive "c") = .ok c := ⟨_, by rfl⟩
    exact ⟨c, hc, (hdriven c hc).2⟩
  · have hselect : (onStore .containment overlapping {} .containment).select (positive "d") =
        .error (.storage "d" none (.collectionNotFound "d")) := by rfl
    exact ⟨_, hselect, (hmissing _ _ _ hselect).1⟩

end Engine

end Quarry

-- SUMMARY: What a store answers to scans and to queries, and which index answers.
import Quarry.Proofs.Index.Ranges
import Quarry.Proofs.Store.Reachable

/-!
# Reading stores

A scan gives all records of a collection. A query is answered by one index, the first one on its field by
name, which is also the one that the catalog reports. In a reachable store the index mirrors the records,
so the answer is exactly what the query wants, in the order of the index.
-/

namespace Quarry

/-! ## Indexes on a field -/

namespace Collection

/-- The index under a name is the first one on a field, in the order of the names. -/
structure FirstOn (c : Collection) (field i : String) (ix : SecondaryIndex) : Prop where
  get : c.indexes.get? i = some ix
  on : ix.descriptor.field = field
  least : ∀ j jx, c.indexes.get? j = some jx → jx.descriptor.field = field →
    (compare i j).isLE = true

variable {c : Collection} {field : String} {ix : SecondaryIndex}

theorem indexOn?_eq_some_iff : c.indexOn? field = some ix ↔ ∃ i, c.FirstOn field i ix := by
  unfold indexOn?
  rw [SortedMap.find?_values_eq_some_iff]
  simp only [beq_iff_eq]
  constructor
  · rintro ⟨i, hget, hon, hleast⟩
    exact ⟨i, hget, hon, hleast⟩
  · rintro ⟨i, hget, hon, hleast⟩
    exact ⟨i, hget, hon, hleast⟩

theorem indexOn?_eq_none_iff :
    c.indexOn? field = none ↔ ∀ i ix, c.indexes.get? i = some ix → ix.descriptor.field ≠ field := by
  unfold indexOn?
  rw [List.find?_eq_none]
  constructor
  · intro h i ix hix hon
    exact h ix (SortedMap.mem_values_iff.2 ⟨i, hix⟩) (beq_iff_eq.2 hon)
  · intro h ix hix hon
    obtain ⟨i, hi⟩ := SortedMap.mem_values_iff.1 hix
    exact h i ix hi (beq_iff_eq.1 hon)

end Collection

/-! ## Streams -/

namespace Store

variable {s : Store} {test : GeometryTest} {c : Collection}

theorem catalog_eq {name : String} (hc : s.collections.get? name = some c) (field : String) :
    s.catalog name field = (c.indexOn? field).map (·.descriptor) := by
  unfold catalog
  rw [hc, Option.map_eq_bind]
  rfl

/-- The index that the catalog reports is the one that answers queries on the field. -/
theorem catalog_eq_some {name field : String} {d : IndexDescriptor}
    (hc : s.collections.get? name = some c) (h : s.catalog name field = some d) :
    ∃ i ix, c.indexes.get? i = some ix ∧ c.indexOn? field = some ix ∧ ix.descriptor = d ∧
      d.field = field := by
  rw [catalog_eq hc] at h
  obtain ⟨ix, hix, rfl⟩ := Option.map_eq_some_iff.1 h
  obtain ⟨i, hfirst⟩ := Collection.indexOn?_eq_some_iff.1 hix
  exact ⟨i, ix, hfirst.get, hix, rfl, hfirst.on⟩

theorem scan_eq_ok {name : String} (hc : s.collections.get? name = some c) :
    s.scan name = .ok (.ofList (c.records.values.map .ok) true) := by
  unfold scan
  rw [collection_eq_ok_iff.2 hc]
  rfl

theorem query_eq_ok {name : String} {q : IndexQuery} {ix : SecondaryIndex} {keys : List String}
    (hc : s.collections.get? name = some c) (hix : c.indexOn? q.field = some ix)
    (hkeys : ix.lookup test q = .ok keys) :
    s.query test name q = .ok (.ofList ((keys.filterMap c.records.get?).map .ok) true) := by
  unfold query
  rw [collection_eq_ok_iff.2 hc]
  simp only [bind, Except.bind, hix, hkeys]
  rfl

theorem query_of_indexOn?_eq_none {name : String} {q : IndexQuery}
    (hc : s.collections.get? name = some c) (hix : c.indexOn? q.field = none) :
    s.query test name q = .error (.indexNotFound name q.field) := by
  unfold query
  rw [collection_eq_ok_iff.2 hc]
  simp only [bind, Except.bind, hix]
  rfl

theorem query_eq_error {name : String} {q : IndexQuery} {ix : SecondaryIndex} {e : StoreError}
    (hc : s.collections.get? name = some c) (hix : c.indexOn? q.field = some ix)
    (hlookup : ix.lookup test q = .error e) : s.query test name q = .error e := by
  unfold query
  rw [collection_eq_ok_iff.2 hc]
  simp only [bind, Except.bind, hix, hlookup]

/-- A query that is answered goes to the first index on its field, which finds the keys. -/
theorem exists_of_query_eq_ok {name : String} {q : IndexQuery} {source : Stream}
    (h : s.query test name q = .ok source) :
    ∃ c i ix keys, s.collections.get? name = some c ∧ c.FirstOn q.field i ix ∧
      ix.lookup test q = .ok keys ∧
      source = .ofList ((keys.filterMap c.records.get?).map .ok) true := by
  cases hc : s.collections.get? name with
  | none =>
    have hmissing : s.collection name = .error (.collectionNotFound name) := by
      unfold collection
      rw [hc]
    unfold query at h
    rw [hmissing] at h
    contradiction
  | some c =>
    cases hix : c.indexOn? q.field with
    | none =>
      rw [query_of_indexOn?_eq_none hc hix] at h
      contradiction
    | some ix =>
      obtain ⟨i, hfirst⟩ := Collection.indexOn?_eq_some_iff.1 hix
      cases hlookup : ix.lookup test q with
      | error e =>
        rw [query_eq_error hc hix hlookup] at h
        contradiction
      | ok keys =>
        rw [query_eq_ok hc hix hlookup] at h
        exact ⟨c, i, ix, keys, rfl, hfirst, hlookup, (Except.ok.inj h).symm⟩

/-! ## Answers -/

/-- What an index finds is what the query wants of the current records. -/
theorem mem_filterMap_iff {ix : SecondaryIndex} {q : IndexQuery} {keys : List String}
    (hfield : ix.descriptor.field = q.field) (hq : ix.descriptor.type.Supports q)
    (hfinds : SecondaryIndex.Finds test ix.descriptor q c.records keys) (r : Record) :
    r ∈ keys.filterMap c.records.get? ↔ r ∈ c.records.values ∧ q.Wants test ix.descriptor.type r := by
  rw [List.mem_filterMap, SortedMap.mem_values_iff, ← SecondaryIndex.selects_iff hfield hq]
  constructor
  · rintro ⟨k, hk, hr⟩
    obtain ⟨r', hr', hselects⟩ := (hfinds.mem k).1 hk
    obtain rfl := Option.some.inj (hr'.symm.trans hr)
    exact ⟨⟨k, hr⟩, hselects⟩
  · rintro ⟨⟨k, hr⟩, hselects⟩
    exact ⟨k, (hfinds.mem k).2 ⟨r, hr, hselects⟩, hr⟩

/-- Under different keys are records with different keys. -/
theorem nodup_keys_filterMap {records : SortedMap String Record} {keys : List String}
    (hkeys : ∀ s r, records.get? s = some r → r.key = s) (h : keys.Nodup) :
    ((keys.filterMap records.get?).map Record.key).Nodup := by
  unfold List.Nodup
  rw [List.pairwise_map, List.pairwise_filterMap]
  refine h.imp ?_
  intro s t hne r hr r' hr'
  rw [hkeys s r hr, hkeys t r' hr']
  exact hne

/-- A query to a collection is answered by the first index on its field, in the order of the names, and
    fails if there is none. The index refuses the queries that its type does not support, and no other.
    The answer has each current record that the query wants once and no other record, in the order of the
    index. If a range is wanted, an ordered map is searched between its bounds, which does not refuse them,
    or they leave no room and nothing is searched. -/
theorem Reachable.query_exact (hs : s.Reachable) (test : GeometryTest) {name : String}
    (hc : s.collections.get? name = some c) (q : IndexQuery) :
    ((∀ i ix, c.indexes.get? i = some ix → ix.descriptor.field ≠ q.field) ∧
      s.query test name q = .error (.indexNotFound name q.field)) ∨
    ∃ i ix, c.FirstOn q.field i ix ∧
      ((¬ ix.descriptor.type.Supports q ∧ ∃ fault, s.query test name q =
          .error (.unsupportedQuery q.field q.operator fault ix.descriptor.type)) ∨
        (ix.descriptor.type.Supports q ∧ ∃ rs : List Record,
          s.query test name q = .ok (.ofList (rs.map .ok) true) ∧
          (∀ r, r ∈ rs ↔ r ∈ c.records.values ∧ q.Wants test ix.descriptor.type r) ∧
          (rs.map Record.key).Nodup ∧ rs.Pairwise ix.descriptor.Precedes)) ∧
      ∀ range, SecondaryIndex.range ix.descriptor.type q = .ok range →
        (range.isEmpty = true ∧ ix.lookup test q = .ok []) ∨
          ∃ ps searchable, ix.content = .postings ps ∧
            ix.lookup test q = .ok (ps.within range searchable) := by
  cases hix : c.indexOn? q.field with
  | none =>
    exact .inl ⟨Collection.indexOn?_eq_none_iff.1 hix, query_of_indexOn?_eq_none hc hix⟩
  | some ix =>
    obtain ⟨i, hfirst⟩ := Collection.indexOn?_eq_some_iff.1 hix
    have hconsistent := hs.consistent name c hc
    have hmirrors := hconsistent.mirrored i ix hfirst.get
    refine .inr ⟨i, ix, hfirst, ?_, fun range => SecondaryIndex.lookup_of_range test hmirrors⟩
    by_cases hq : ix.descriptor.type.Supports q
    · obtain ⟨keys, hkeys, hfinds⟩ :=
        SecondaryIndex.lookup_of_mirrors test hmirrors (SecondaryIndex.answers_iff.2 hq)
      exact .inr ⟨hq, _, query_eq_ok hc hix hkeys, mem_filterMap_iff hfirst.on hq hfinds,
        nodup_keys_filterMap hconsistent.keyed hfinds.nodup,
        SecondaryIndex.pairwise_lookup hconsistent.keyed hmirrors hkeys⟩
    · obtain ⟨fault, hfault⟩ := SecondaryIndex.lookup_of_not_supports hmirrors hq
      exact .inl ⟨hq, fault, query_eq_error hc hix hfault⟩

/-- A store with integers, doubles and a text at one field, under an index of numbers. -/
def mixed : Store :=
  empty.updates
    [.createCollection "c", .createIndex "c" "i" "n" .numeric,
      .put "c" ⟨"a", .ofList [("n", .int 2)], 0, none⟩,
      .put "c" ⟨"b", .ofList [("n", .float ⟨0x3FF8000000000000⟩)], 0, none⟩,
      .put "c" ⟨"c", .ofList [("n", .float (.ofInt 2))], 0, none⟩,
      .put "c" ⟨"d", .ofList [("n", .int 3)], 0, none⟩,
      .put "c" ⟨"e", .ofList [("n", .string "2")], 0, none⟩]

/-- The numbers from 3/2 up to 3. -/
def mixedQuery : IndexQuery :=
  ⟨"n", .between, .float ⟨0x3FF8000000000000⟩, some (.int 3)⟩

/-- There are 3/2, and then 2, which one record holds as an integer and one as a double. -/
theorem mixed_query_exact :
    ∃ (c : Collection) (i : String) (ix : SecondaryIndex) (rs : List Record),
      mixed.collections.get? "c" = some c ∧ c.FirstOn "n" i ix ∧
      mixed.query .containment "c" mixedQuery = .ok (.ofList (rs.map .ok) true) ∧
      rs.map Record.key = ["b", "a", "c"] ∧ rs.Pairwise ix.descriptor.Precedes := by
  have hreachable : mixed.Reachable := .updates .empty _
  have hanswer : (mixed.query .containment "c" mixedQuery).toOption.map
      (fun stream => stream.items.map fun item => item.toOption.map Record.key) =
      some [some "b", some "a", some "c"] := by decide +kernel
  have hsome : (mixed.collections.get? "c").isSome = true := by decide +kernel
  obtain ⟨c, hc⟩ := Option.isSome_iff_exists.1 hsome
  rcases hreachable.query_exact .containment hc mixedQuery with
    ⟨_, h⟩ | ⟨i, ix, hfirst, ⟨_, fault, h⟩ | ⟨_, rs, h, _, _, hordered⟩, _⟩
  · rw [h] at hanswer
    contradiction
  · rw [h] at hanswer
    contradiction
  · rw [h] at hanswer
    refine ⟨c, i, ix, rs, hc, hfirst, h, ?_, hordered⟩
    simpa [Except.toOption, List.map_eq_cons_iff] using hanswer

end Store

end Quarry

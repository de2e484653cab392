-- SUMMARY: Which queries an index answers, what each of them wants, and the order of the answer.
import Quarry.Proofs.Index.Comparison
import Quarry.Proofs.Index.Lookup

/-!
# Queries to an index

An index answers a comparison or `BETWEEN` if its type has keys for the bounds, and `GEO_WITHIN` if it
holds points. The bounds that are made for a query leave just the keys that the operator asks for. If
they are seen to leave no room, nothing is searched; otherwise an ordered map can search between them.
The answer is in the order of the index keys, and under one index key in the order of the records.
-/

namespace Quarry

/-! ## Queries that an index answers -/

namespace IndexType

/-- The values that an index of the type has keys for. -/
inductive Covers : IndexType → Value → Prop
  | int (n : Int64) : Covers .numeric (.int n)
  | float (x : Binary64) : Covers .numeric (.float x)
  | string (t : String) : Covers .string (.string t)

theorem covers_iff {type : IndexType} {v : Value} :
    type.Covers v ↔ ∃ k, IndexKey.ofValue? type v = some k := by
  constructor
  · intro h
    cases h with
    | int n => exact ⟨_, rfl⟩
    | float x => exact ⟨_, rfl⟩
    | string t => exact ⟨_, rfl⟩
  · rintro ⟨k, hk⟩
    unfold IndexKey.ofValue? at hk
    split at hk
    · exact .int _
    · exact .float _
    · exact .string _
    · contradiction

/-- The queries that an index of the type answers. -/
inductive Supports (type : IndexType) (q : IndexQuery) : Prop
  | comparison (operator : q.operator.isComparison = true) (bound : type.Covers q.bound1)
  | between (operator : q.operator = .between) (lower : type.Covers q.bound1) (v : Value)
      (second : q.bound2 = some v) (upper : type.Covers v)
  | within (points : type = .geo2dSphere) (operator : q.operator = .geoWithin) (g : Geometry)
      (region : q.bound1 = .geo g)

theorem Covers.ne_geo2dSphere {type : IndexType} {v : Value} (h : type.Covers v) :
    type ≠ .geo2dSphere := by
  cases h <;> decide

end IndexType

/-! ## Records that a query wants -/

/-- What an operator asks of an index key, with the keys of the bounds. -/
def Operator.Admits (op : Operator) (k lower : IndexKey) (upper : Option IndexKey) : Prop :=
  match op with
  | .eq => k = lower
  | .lt => compare k lower = .lt
  | .ltEq => compare k lower ≠ .gt
  | .gt => compare k lower = .gt
  | .gtEq => compare k lower ≠ .lt
  | .between => compare k lower ≠ .lt ∧ ∃ u, upper = some u ∧ compare k u = .lt
  | _ => False

/-- A query to an index of the given type wants a record by the value at the field: its key is as the
    operator asks, or it is a point in the region. -/
inductive IndexQuery.Wants (q : IndexQuery) (test : GeometryTest) (type : IndexType) (r : Record) : Prop
  | key {v : Value} {k lower : IndexKey} (value : r.atPath? q.field = some v)
      (key : IndexKey.ofValue? type v = some k) (bound : IndexKey.ofValue? type q.bound1 = some lower)
      (admits : q.operator.Admits k lower (q.bound2.bind (IndexKey.ofValue? type)))
  | point {g : Geometry} {p : Position} (points : type = .geo2dSphere)
      (operator : q.operator = .geoWithin) (region : q.bound1 = .geo g)
      (value : r.atPath? q.field = some (.geo (.point p))) (holds : test (.point p) g = some true)

namespace SecondaryIndex

variable {type : IndexType} {q : IndexQuery}

/-! ## Ranges of queries -/

theorem holds_iff_admits {op : Operator} (hop : op.isComparison = true) (k lower : IndexKey)
    (upper : Option IndexKey) : op.holds (compare k lower) = true ↔ op.Admits k lower upper := by
  rcases Operator.eq_of_isComparison hop with rfl | rfl | rfl | rfl | rfl
  · exact beq_iff_eq.trans Std.compare_eq_eq_iff_eq
  all_goals
    simp only [Operator.holds, Operator.Admits]
    cases compare k lower <;> decide

theorem range_of_between {lower u : IndexKey} {v : Value} (hop : q.operator = .between)
    (hlower : IndexKey.ofValue? type q.bound1 = some lower) (hv : q.bound2 = some v)
    (hu : IndexKey.ofValue? type v = some u) :
    SecondaryIndex.range type q = .ok ⟨.included lower, .excluded u⟩ := by
  unfold SecondaryIndex.range
  simp only [hlower, hop, hv, Option.bind_some, hu]

/-- The range of a supported query has the keys that the operator asks for. -/
theorem exists_range (htype : type ≠ .geo2dSphere) (h : type.Supports q) :
    ∃ range lower, SecondaryIndex.range type q = .ok range ∧
      IndexKey.ofValue? type q.bound1 = some lower ∧
      ∀ k, range.contains k = true ↔
        q.operator.Admits k lower (q.bound2.bind (IndexKey.ofValue? type)) := by
  cases h with
  | comparison operator bound =>
    obtain ⟨lower, hlower⟩ := IndexType.covers_iff.1 bound
    obtain ⟨range, hrange, hcontains⟩ := range_of_comparison operator hlower
    refine ⟨range, lower, hrange, hlower, ?_⟩
    intro k
    rw [hcontains]
    exact holds_iff_admits operator k lower _
  | between operator lower v second upper =>
    obtain ⟨lower, hlower⟩ := IndexType.covers_iff.1 lower
    obtain ⟨u, hu⟩ := IndexType.covers_iff.1 upper
    refine ⟨_, lower, range_of_between operator hlower second hu, hlower, ?_⟩
    intro k
    rw [KeyRange.contains_between_iff, operator, second, Option.bind_some, hu]
    simp [Operator.Admits]
  | within points => exact absurd points htype

theorem supports_of_range {range : KeyRange} (h : SecondaryIndex.range type q = .ok range) :
    type.Supports q := by
  unfold SecondaryIndex.range at h
  cases hk : IndexKey.ofValue? type q.bound1 with
  | none =>
    rw [hk] at h
    contradiction
  | some k =>
    have hbound := IndexType.covers_iff.2 ⟨k, hk⟩
    rw [hk] at h
    cases hop : q.operator with
    | eq | lt | ltEq | gt | gtEq =>
      refine .comparison ?_ hbound
      rw [hop]
      rfl
    | between =>
      simp only [hop] at h
      split at h
      · next u hu =>
        obtain ⟨v, hv, hkey⟩ := Option.bind_eq_some_iff.1 hu
        exact .between hop hbound v hv (IndexType.covers_iff.2 ⟨u, hkey⟩)
      · contradiction
    | _ =>
      simp only [hop] at h
      contradiction

theorem region_eq_ok_iff {g : Geometry} :
    region q = .ok g ↔ q.operator = .geoWithin ∧ q.bound1 = .geo g := by
  unfold region
  split
  · next hop hg => simp [hop, hg]
  · next h => simpa using h g

/-- An index can answer just the supported queries. -/
theorem answers_iff : Answers type q ↔ type.Supports q := by
  unfold Answers
  split
  · constructor
    · rintro ⟨g, hg⟩
      obtain ⟨hop, hg⟩ := region_eq_ok_iff.1 hg
      exact .within rfl hop g hg
    · intro h
      cases h with
      | comparison _ bound => exact absurd rfl bound.ne_geo2dSphere
      | between _ lower => exact absurd rfl lower.ne_geo2dSphere
      | within _ operator g region => exact ⟨g, region_eq_ok_iff.2 ⟨operator, region⟩⟩
  all_goals
    refine ⟨fun ⟨range, hrange⟩ => supports_of_range hrange, fun h => ?_⟩
    obtain ⟨range, _, hrange, _⟩ := exists_range (by decide) h
    exact ⟨range, hrange⟩

theorem ne_geo2dSphere_of_range {range : KeyRange} (h : SecondaryIndex.range type q = .ok range) :
    type ≠ .geo2dSphere := by
  rintro rfl
  have hnone : IndexKey.ofValue? .geo2dSphere q.bound1 = none := by cases q.bound1 <;> rfl
  unfold SecondaryIndex.range at h
  rw [hnone] at h
  contradiction

/-! ## Selected records -/

variable {test : GeometryTest} {d : IndexDescriptor} {r : Record}

theorem point?_eq_some_iff {p : Position} :
    point? d r = some p ↔ r.atPath? d.field = some (.geo (.point p)) := by
  unfold point?
  split
  · next h => simp [h]
  · next h => simpa using h p

/-- An index of points selects the records that a query for a region wants. -/
theorem selects_iff_of_geo2dSphere (hfield : d.field = q.field) (htype : d.type = .geo2dSphere)
    (h : d.type.Supports q) : Selects test d q r ↔ q.Wants test d.type r := by
  obtain ⟨g, hg⟩ := (answers_iff.2 h).exists_region htype
  obtain ⟨hop, hbound⟩ := region_eq_ok_iff.1 hg
  rw [selects_iff_of_region htype hg]
  simp only [point?_eq_some_iff, hfield]
  constructor
  · rintro ⟨p, hvalue, hin⟩
    exact .point htype hop hbound hvalue hin
  · intro hwants
    cases hwants with
    | key _ key => exact absurd htype (IndexType.covers_iff.2 ⟨_, key⟩).ne_geo2dSphere
    | point _ _ region value holds =>
      obtain rfl := Value.geo.inj (region.symm.trans hbound)
      exact ⟨_, value, holds⟩

/-- An index with keys selects the records that a query for a range wants. -/
theorem selects_iff_of_ne_geo2dSphere (hfield : d.field = q.field) (htype : d.type ≠ .geo2dSphere)
    (h : d.type.Supports q) : Selects test d q r ↔ q.Wants test d.type r := by
  obtain ⟨range, lower, hrange, hlower, hcontains⟩ := exists_range htype h
  rw [selects_iff_of_range htype hrange, key?, hfield]
  constructor
  · rintro ⟨k, hkey, hin⟩
    obtain ⟨v, hvalue, hkey⟩ := Option.bind_eq_some_iff.1 hkey
    exact .key hvalue hkey hlower ((hcontains k).1 hin)
  · intro hwants
    cases hwants with
    | key value key bound admits =>
      obtain rfl := Option.some.inj (hlower.symm.trans bound)
      exact ⟨_, Option.bind_eq_some_iff.2 ⟨_, value, key⟩, (hcontains _).2 admits⟩
    | point points => exact absurd points htype

theorem selects_iff (hfield : d.field = q.field) (h : d.type.Supports q) :
    Selects test d q r ↔ q.Wants test d.type r := by
  by_cases htype : d.type = .geo2dSphere
  · exact selects_iff_of_geo2dSphere hfield htype h
  · exact selects_iff_of_ne_geo2dSphere hfield htype h

end SecondaryIndex

/-! ## The order of the answer -/

/-- The order of an index: by index key and then by the key of the record, or by the latter alone if the
    index has points. -/
def IndexDescriptor.Precedes (d : IndexDescriptor) (r r' : Record) : Prop :=
  match d.type with
  | .geo2dSphere => compare r.key r'.key = .lt
  | .numeric | .string =>
    ∃ k k', SecondaryIndex.key? d r = some k ∧ SecondaryIndex.key? d r' = some k' ∧
      (compare k k').then (compare r.key r'.key) = .lt

theorem IndexDescriptor.precedes_iff {d : IndexDescriptor} {r r' : Record}
    (htype : d.type ≠ .geo2dSphere) :
    d.Precedes r r' ↔ ∃ k k', SecondaryIndex.key? d r = some k ∧ SecondaryIndex.key? d r' = some k' ∧
      (compare k k').then (compare r.key r'.key) = .lt := by
  unfold Precedes
  split
  · next h => exact absurd h htype
  all_goals rfl

/-- Records are found in the order of their index keys, and under one index key in their own order. -/
theorem Postings.pairwise_within (ps : Postings) {range : KeyRange} (searchable : range.Searchable) :
    (ps.within range searchable).Pairwise fun s t =>
      ∃ k l, ps.Has k s ∧ ps.Has l t ∧ (compare k l).then (compare s t) = .lt := by
  unfold within
  rw [List.pairwise_flatMap]
  constructor
  · intro e he
    have hentry := (List.mem_filter.1 he).1
    refine List.Pairwise.imp_of_mem ?_ e.2.keys_ascending
    intro s t hs ht hlt
    refine ⟨e.1, e.1, has_of_mem_entries hentry hs, has_of_mem_entries hentry ht, ?_⟩
    rw [Std.compare_self, Ordering.eq_then, hlt]
  · refine List.Pairwise.imp_of_mem ?_ (ps.ascending.filter _)
    intro d e hd he hlt s hs t ht
    refine ⟨d.1, e.1, has_of_mem_entries (List.mem_filter.1 hd).1 hs,
      has_of_mem_entries (List.mem_filter.1 he).1 ht, ?_⟩
    rw [hlt, Ordering.lt_then]

theorem SecondaryIndex.pairwise_pointsWithin (test : GeometryTest) (map : SortedMap String Position)
    (g : Geometry) : (pointsWithin test map g).Pairwise fun s t => compare s t = .lt :=
  map.keys_ascending.sublist (List.filter_sublist.map _)

namespace SecondaryIndex

variable {test : GeometryTest} {ix : SecondaryIndex} {records : SortedMap String Record} {q : IndexQuery}

/-- The keys that a look-up gives are those in a range, or of the points in a region. -/
theorem lookup_cases {keys : List String} (h : ix.lookup test q = .ok keys) :
    (∃ ps range, ix.content = .postings ps ∧
      (keys = [] ∨ ∃ searchable, keys = ps.within range searchable)) ∨
      ∃ map g, ix.content = .points map ∧ keys = pointsWithin test map g := by
  unfold lookup at h
  cases hcontent : ix.content with
  | postings ps =>
    simp only [hcontent] at h
    split at h
    · next range _ =>
      refine .inl ⟨ps, range, rfl, ?_⟩
      split at h
      · exact .inl (Except.ok.inj h).symm
      · exact .inr ⟨_, (Except.ok.inj h).symm⟩
    · contradiction
  | points map =>
    simp only [hcontent] at h
    split at h
    · next g _ => exact .inr ⟨map, g, rfl, (Except.ok.inj h).symm⟩
    · contradiction

/-- Postings that mirror the records list them in the order of the index. -/
theorem pairwise_filterMap_within {d : IndexDescriptor} {ps : Postings}
    (hkeys : ∀ s r, records.get? s = some r → r.key = s)
    (h : IndexContent.Mirrors d records (.postings ps)) {range : KeyRange}
    (searchable : range.Searchable) :
    ((ps.within range searchable).filterMap records.get?).Pairwise d.Precedes := by
  cases h with
  | postings htype _ has =>
    rw [List.pairwise_filterMap]
    refine (ps.pairwise_within searchable).imp ?_
    rintro s t ⟨k, l, hk, hl, hlt⟩ r hr r' hr'
    obtain ⟨a, ha, hka⟩ := (has k s).1 hk
    obtain ⟨b, hb, hlb⟩ := (has l t).1 hl
    obtain rfl := Option.some.inj (ha.symm.trans hr)
    obtain rfl := Option.some.inj (hb.symm.trans hr')
    rw [IndexDescriptor.precedes_iff htype, hkeys s _ ha, hkeys t _ hb]
    exact ⟨k, l, hka, hlb, hlt⟩

/-- Points that mirror the records list them in their own order. -/
theorem pairwise_filterMap_pointsWithin {d : IndexDescriptor} {map : SortedMap String Position}
    (hkeys : ∀ s r, records.get? s = some r → r.key = s)
    (h : IndexContent.Mirrors d records (.points map)) (g : Geometry) :
    ((pointsWithin test map g).filterMap records.get?).Pairwise d.Precedes := by
  cases h with
  | points htype _ =>
    rw [List.pairwise_filterMap]
    refine (pairwise_pointsWithin test map g).imp ?_
    intro s t hlt r hr r' hr'
    unfold IndexDescriptor.Precedes
    rw [htype, hkeys s r hr, hkeys t r' hr']
    exact hlt

/-- An index that mirrors the records answers in its order. -/
theorem pairwise_lookup (hkeys : ∀ s r, records.get? s = some r → r.key = s) (h : ix.Mirrors records)
    {keys : List String} (hlookup : ix.lookup test q = .ok keys) :
    (keys.filterMap records.get?).Pairwise ix.descriptor.Precedes := by
  unfold Mirrors at h
  rcases lookup_cases hlookup with
    ⟨ps, range, hcontent, rfl | ⟨searchable, rfl⟩⟩ | ⟨map, g, hcontent, rfl⟩
  · exact .nil
  · exact pairwise_filterMap_within hkeys (hcontent ▸ h) searchable
  · exact pairwise_filterMap_pointsWithin hkeys (hcontent ▸ h) g

/-- An index that mirrors the records refuses the other queries. -/
theorem lookup_of_not_supports (h : ix.Mirrors records) (hq : ¬ ix.descriptor.type.Supports q) :
    ∃ fault, ix.lookup test q =
      .error (.unsupportedQuery q.field q.operator fault ix.descriptor.type) := by
  unfold Mirrors at h
  unfold lookup
  cases hcontent : ix.content with
  | postings ps =>
    cases hrange : SecondaryIndex.range ix.descriptor.type q with
    | ok range => exact absurd (supports_of_range hrange) hq
    | error fault => exact ⟨fault, rfl⟩
  | points map =>
    rw [hcontent] at h
    cases h with
    | points htype _ =>
      cases hregion : region q with
      | ok g =>
        obtain ⟨hop, hg⟩ := region_eq_ok_iff.1 hregion
        exact absurd (.within htype hop g hg) hq
      | error fault => exact ⟨fault, rfl⟩

/-- An index that mirrors the records searches between the bounds of a query, which it can, or they leave
    no room and it has nothing to search. -/
theorem lookup_of_range (test : GeometryTest) (h : ix.Mirrors records) {range : KeyRange}
    (hrange : SecondaryIndex.range ix.descriptor.type q = .ok range) :
    (range.isEmpty = true ∧ ix.lookup test q = .ok []) ∨
      ∃ ps searchable, ix.content = .postings ps ∧
        ix.lookup test q = .ok (ps.within range searchable) := by
  unfold Mirrors at h
  unfold lookup
  cases hcontent : ix.content with
  | postings ps =>
    simp only [hrange]
    by_cases hempty : range.isEmpty = true
    · exact .inl ⟨hempty, dif_pos hempty⟩
    · exact .inr ⟨ps, KeyRange.searchable_of_not_isEmpty hempty, rfl, dif_neg hempty⟩
  | points map =>
    rw [hcontent] at h
    cases h with
    | points htype _ => exact absurd htype (ne_geo2dSphere_of_range hrange)

end SecondaryIndex

end Quarry

-- SUMMARY: An index that mirrors the records finds just the records that a query selects.
import Quarry.Proofs.Index.Content

/-!
# Looking records up

A query selects a record by what the record holds at the field: an index key in the range of the
query, or a point in its region. Looking a query up in an index that mirrors the records gives the
key of every selected record once, and no other key.
-/

namespace Quarry

/-! ## Ranges -/

/-- A range without room between its bounds contains nothing. -/
theorem KeyRange.not_contains_of_isEmpty {range : KeyRange} (h : range.isEmpty = true)
    (k : IndexKey) : ¬ range.contains k = true := by
  obtain ⟨lower, upper⟩ := range
  unfold contains
  rw [Bool.and_eq_true]
  rintro ⟨hlower, hupper⟩
  cases lower with
  | unbounded => contradiction
  | included l =>
    cases upper with
    | unbounded => contradiction
    | included u =>
      have hle : (compare l u).isLE = true := Std.TransCmp.isLE_trans hlower hupper
      have hgt : compare l u = .gt := beq_iff_eq.1 h
      rw [hgt] at hle
      contradiction
    | excluded u =>
      have hlt : compare l u = .lt := Std.TransCmp.lt_of_isLE_of_lt hlower (beq_iff_eq.1 hupper)
      have hge : (compare l u).isGE = true := h
      rw [hlt] at hge
      contradiction
  | excluded l =>
    have hge (u : IndexKey) (hlt : compare l u = .lt) : ¬ (compare l u).isGE = true := by
      rw [hlt]
      decide
    cases upper with
    | unbounded => contradiction
    | included u => exact hge u (Std.TransCmp.lt_of_lt_of_isLE (beq_iff_eq.1 hlower) hupper) h
    | excluded u => exact hge u (Std.TransCmp.lt_trans (beq_iff_eq.1 hlower) (beq_iff_eq.1 hupper)) h

/-- A range from a key up to the same key contains just that key. -/
theorem KeyRange.contains_self_iff (k l : IndexKey) :
    KeyRange.contains ⟨.included k, .included k⟩ l = true ↔ l = k := by
  unfold contains
  rw [Bool.and_eq_true]
  constructor
  · rintro ⟨hlower, hupper⟩
    exact Std.compare_eq_eq_iff_eq.1 (Std.OrientedCmp.isLE_antisymm hupper hlower)
  · rintro rfl
    simp [Std.compare_self]

/-! ## Postings in a range -/

namespace Postings

variable {ps : Postings} {range : KeyRange} {searchable : range.Searchable}

theorem has_of_mem_entries {k : IndexKey} {ss : SortedSet String} {s : String}
    (he : (k, ss) ∈ ps.entries) (hs : s ∈ ss.keys) : ps.Has k s :=
  ⟨ss, SortedMap.get?_eq_some_iff.2 he, SortedMap.mem_keys_iff.1 hs⟩

theorem mem_within_iff {s : String} :
    s ∈ ps.within range searchable ↔ ∃ k, range.contains k = true ∧ ps.Has k s := by
  unfold within
  rw [List.mem_flatMap]
  constructor
  · rintro ⟨⟨k, ss⟩, he, hs⟩
    obtain ⟨hentry, hrange⟩ := List.mem_filter.1 he
    exact ⟨k, hrange, has_of_mem_entries hentry hs⟩
  · rintro ⟨k, hrange, ss, hget, hs⟩
    exact ⟨(k, ss), List.mem_filter.2 ⟨SortedMap.get?_eq_some_iff.1 hget, hrange⟩,
      SortedMap.mem_keys_iff.2 hs⟩

/-- If no record is under two index keys, none is found twice. -/
theorem nodup_within (h : ∀ k l s, ps.Has k s → ps.Has l s → k = l) :
    (ps.within range searchable).Nodup := by
  unfold within List.Nodup
  rw [List.pairwise_flatMap]
  refine ⟨fun e _ => SortedMap.keys_nodup e.2, ?_⟩
  refine List.Pairwise.imp_of_mem ?_ (ps.ascending.filter _)
  intro d e hd he hlt s hs t ht hst
  obtain rfl : s = t := hst
  have hkeys := h d.1 e.1 s (has_of_mem_entries (List.mem_filter.1 hd).1 hs)
    (has_of_mem_entries (List.mem_filter.1 he).1 ht)
  exact SortedMap.ne_of_compare_lt hlt hkeys

end Postings

namespace SecondaryIndex

/-! ## Selection -/

/-- The query selects the record by what it holds at the field of the index. -/
def Selects (test : GeometryTest) (d : IndexDescriptor) (q : IndexQuery) (r : Record) : Prop :=
  match d.type with
  | .geo2dSphere =>
    ∃ g p, region q = .ok g ∧ point? d r = some p ∧ test (.point p) g = some true
  | .numeric | .string =>
    ∃ range k, SecondaryIndex.range d.type q = .ok range ∧ key? d r = some k ∧
      range.contains k = true

/-- An index of the given type can answer the query. -/
def Answers (type : IndexType) (q : IndexQuery) : Prop :=
  match type with
  | .geo2dSphere => ∃ g, region q = .ok g
  | .numeric | .string => ∃ range, SecondaryIndex.range type q = .ok range

variable {test : GeometryTest} {ix : SecondaryIndex} {records : SortedMap String Record} {q : IndexQuery}

theorem selects_iff_of_range {d : IndexDescriptor} {r : Record} {range : KeyRange}
    (htype : d.type ≠ .geo2dSphere) (hrange : SecondaryIndex.range d.type q = .ok range) :
    Selects test d q r ↔ ∃ k, key? d r = some k ∧ range.contains k = true := by
  unfold Selects
  cases hd : d.type with
  | geo2dSphere => exact absurd hd htype
  | _ =>
    rw [hd] at hrange
    simp [hrange]

theorem selects_iff_of_region {d : IndexDescriptor} {r : Record} {g : Geometry}
    (htype : d.type = .geo2dSphere) (hregion : region q = .ok g) :
    Selects test d q r ↔ ∃ p, point? d r = some p ∧ test (.point p) g = some true := by
  unfold Selects
  simp [htype, hregion]

theorem mem_pointsWithin_iff {map : SortedMap String Position} {g : Geometry} {s : String} :
    s ∈ pointsWithin test map g ↔ ∃ p, map.get? s = some p ∧ test (.point p) g = some true := by
  unfold pointsWithin
  constructor
  · intro h
    obtain ⟨e, he, rfl⟩ := List.mem_map.1 h
    obtain ⟨hentry, hin⟩ := List.mem_filter.1 he
    exact ⟨e.2, SortedMap.get?_eq_some_iff.2 hentry, beq_iff_eq.1 hin⟩
  · rintro ⟨p, hget, hin⟩
    exact List.mem_map.2
      ⟨(s, p), List.mem_filter.2 ⟨SortedMap.get?_eq_some_iff.1 hget, beq_iff_eq.2 hin⟩, rfl⟩

theorem nodup_pointsWithin (test : GeometryTest) (map : SortedMap String Position) (g : Geometry) :
    (pointsWithin test map g).Nodup :=
  map.keys_nodup.sublist (List.filter_sublist.map _)

/-- The keys of the records that a query selects, each of them once. -/
structure Finds (test : GeometryTest) (d : IndexDescriptor) (q : IndexQuery)
    (records : SortedMap String Record) (keys : List String) : Prop where
  nodup : keys.Nodup
  mem : ∀ s, s ∈ keys ↔ ∃ r, records.get? s = some r ∧ Selects test d q r

theorem finds_within {d : IndexDescriptor} {ps : Postings} {range : KeyRange}
    (h : IndexContent.Mirrors d records (.postings ps))
    (hrange : SecondaryIndex.range d.type q = .ok range) (searchable : range.Searchable) :
    Finds test d q records (ps.within range searchable) := by
  cases h with
  | postings htype _ has =>
    constructor
    · -- a record under two index keys would hold two values
      apply Postings.nodup_within
      intro k l s hk hl
      obtain ⟨r, hr, hkey⟩ := (has k s).1 hk
      obtain ⟨r', hr', hkey'⟩ := (has l s).1 hl
      obtain rfl := Option.some.inj (hr.symm.trans hr')
      exact Option.some.inj (hkey.symm.trans hkey')
    · intro s
      rw [Postings.mem_within_iff]
      constructor
      · rintro ⟨k, hin, hhas⟩
        obtain ⟨r, hr, hkey⟩ := (has k s).1 hhas
        exact ⟨r, hr, (selects_iff_of_range htype hrange).2 ⟨k, hkey, hin⟩⟩
      · rintro ⟨r, hr, hselects⟩
        obtain ⟨k, hkey, hin⟩ := (selects_iff_of_range htype hrange).1 hselects
        exact ⟨k, hin, (has k s).2 ⟨r, hr, hkey⟩⟩

/-- A query with an empty range needs no search: it selects no record. -/
theorem finds_nil {d : IndexDescriptor} {ps : Postings} {range : KeyRange}
    (h : IndexContent.Mirrors d records (.postings ps))
    (hrange : SecondaryIndex.range d.type q = .ok range) (hempty : range.isEmpty = true) :
    Finds test d q records [] := by
  cases h with
  | postings htype =>
    refine ⟨.nil, fun s => iff_of_false List.not_mem_nil ?_⟩
    rintro ⟨r, -, hselects⟩
    obtain ⟨k, -, hin⟩ := (selects_iff_of_range htype hrange).1 hselects
    exact KeyRange.not_contains_of_isEmpty hempty k hin

theorem finds_pointsWithin {d : IndexDescriptor} {map : SortedMap String Position} {g : Geometry}
    (h : IndexContent.Mirrors d records (.points map)) (hregion : region q = .ok g) :
    Finds test d q records (pointsWithin test map g) := by
  cases h with
  | points htype hget =>
    refine ⟨nodup_pointsWithin test map g, ?_⟩
    intro s
    rw [mem_pointsWithin_iff]
    constructor
    · rintro ⟨p, hp, hin⟩
      obtain ⟨r, hr, hpoint⟩ := (hget s p).1 hp
      exact ⟨r, hr, (selects_iff_of_region htype hregion).2 ⟨p, hpoint, hin⟩⟩
    · rintro ⟨r, hr, hselects⟩
      obtain ⟨p, hpoint, hin⟩ := (selects_iff_of_region htype hregion).1 hselects
      exact ⟨p, (hget s p).2 ⟨r, hr, hpoint⟩, hin⟩

theorem Answers.exists_range {type : IndexType} (h : Answers type q) (htype : type ≠ .geo2dSphere) :
    ∃ range, SecondaryIndex.range type q = .ok range := by
  unfold Answers at h
  cases type with
  | geo2dSphere => exact absurd rfl htype
  | numeric => exact h
  | string => exact h

theorem Answers.exists_region {type : IndexType} (h : Answers type q) (htype : type = .geo2dSphere) :
    ∃ g, region q = .ok g := by
  subst htype
  exact h

/-- An index that mirrors the records answers a query with the keys of the records that the query
    selects, each of them once. -/
theorem lookup_of_mirrors (test : GeometryTest) (h : ix.Mirrors records)
    (hq : Answers ix.descriptor.type q) :
    ∃ keys, ix.lookup test q = .ok keys ∧ Finds test ix.descriptor q records keys := by
  unfold Mirrors at h
  unfold lookup
  cases hcontent : ix.content with
  | postings ps =>
    rw [hcontent] at h
    have htype : ix.descriptor.type ≠ .geo2dSphere := by
      cases h with
      | postings htype _ _ => exact htype
    obtain ⟨range, hrange⟩ := hq.exists_range htype
    simp only [hrange]
    by_cases hempty : range.isEmpty = true
    · exact ⟨[], dif_pos hempty, finds_nil h hrange hempty⟩
    · exact ⟨_, dif_neg hempty, finds_within h hrange _⟩
  | points map =>
    rw [hcontent] at h
    have htype : ix.descriptor.type = .geo2dSphere := by
      cases h with
      | points htype _ => exact htype
    obtain ⟨g, hregion⟩ := hq.exists_region htype
    simp only [hregion]
    exact ⟨_, rfl, finds_pointsWithin h hregion⟩

end SecondaryIndex

end Quarry

-- SUMMARY: What an index holds, and how adding and removing a record changes it.
import Quarry.Index.Secondary
import Quarry.Proofs.SortedMap

/-!
# The content of an index

The content of an index mirrors a map of records if it says of every record in the map, and of no
other, what the record holds at the field. The empty index mirrors the empty map, and adding and
removing a record keep step with the map, so an index built from scratch mirrors the records it is
built from. Two contents that mirror the same records are equal.
-/

namespace Quarry

/-! ## Postings -/

namespace Postings

/-- The postings have a record under an index key. -/
def Has (ps : Postings) (k : IndexKey) (s : String) : Prop :=
  ∃ ss, ps.get? k = some ss ∧ ss.contains s = true

/-- Every index key has a record under it. -/
def Occupied (ps : Postings) : Prop :=
  ∀ k ss, ps.get? k = some ss → ∃ s, ss.contains s = true

theorem not_has_empty (k : IndexKey) (s : String) : ¬ Postings.Has .empty k s := by
  rintro ⟨ss, h, _⟩
  rw [SortedMap.get?_empty] at h
  contradiction

theorem occupied_empty : Postings.Occupied .empty := by
  intro k ss h
  rw [SortedMap.get?_empty] at h
  contradiction

@[simp] theorem contains_insert {ss : SortedSet String} {s t : String} :
    (SortedMap.insert ss s ()).contains t = true ↔ t = s ∨ ss.contains t = true := by
  rw [SortedMap.contains_iff, SortedMap.contains_iff, SortedMap.get?_insert]
  split
  · next h => simp [h]
  · next h => simp [h]

@[simp] theorem contains_erase {ss : SortedSet String} {s t : String} :
    (SortedMap.erase ss s).contains t = true ↔ t ≠ s ∧ ss.contains t = true := by
  rw [SortedMap.contains_iff, SortedMap.contains_iff, SortedMap.get?_erase]
  split
  · next h => simp [h]
  · next h => simp [h]

theorem not_contains_of_entries_isEmpty {ss : SortedSet String} (h : ss.entries.isEmpty = true)
    (s : String) : ¬ ss.contains s = true := by
  rw [SortedMap.contains_iff]
  rintro ⟨v, hv⟩
  rw [SortedMap.get?_eq_some_iff, List.isEmpty_iff.1 h] at hv
  exact List.not_mem_nil hv

theorem exists_contains_of_entries {ss : SortedSet String} (h : ¬ ss.entries.isEmpty = true) :
    ∃ s, ss.contains s = true := by
  obtain ⟨e, he⟩ := List.exists_mem_of_ne_nil ss.entries (fun h0 => h (List.isEmpty_iff.2 h0))
  exact ⟨e.1, SortedMap.contains_iff.2 ⟨e.2, SortedMap.get?_eq_some_iff.2 he⟩⟩

theorem has_add {ps : Postings} {k l : IndexKey} {s t : String} :
    (ps.add k s).Has l t ↔ (l = k ∧ t = s) ∨ ps.Has l t := by
  unfold add Has
  by_cases hl : l = k
  · subst hl
    simp only [SortedMap.get?_insert_self, Option.some.injEq, exists_eq_left', contains_insert,
      true_and]
    cases h : ps.get? l with
    | none => simp [SortedMap.contains, SortedMap.get?_empty]
    | some ss => simp
  · simp only [SortedMap.get?_insert_of_ne _ _ hl, hl, false_and, false_or]

theorem occupied_add {ps : Postings} (h : ps.Occupied) (k : IndexKey) (s : String) :
    (ps.add k s).Occupied := by
  intro l ss hl
  rcases SortedMap.get?_insert_eq_some_iff.1 hl with ⟨_, rfl⟩ | ⟨_, hold⟩
  · exact ⟨s, contains_insert.2 (.inl rfl)⟩
  · exact h l ss hold

theorem has_remove {ps : Postings} {k l : IndexKey} {s t : String} :
    (ps.remove k s).Has l t ↔ ps.Has l t ∧ ¬ (l = k ∧ t = s) := by
  unfold remove Has
  cases hk : ps.get? k with
  | none =>
    -- nothing to remove: no record is under `k`
    refine ⟨fun h => ⟨h, ?_⟩, And.left⟩
    rintro ⟨rfl, rfl⟩
    obtain ⟨ss, hss, _⟩ := h
    rw [hk] at hss
    contradiction
  | some rs =>
    by_cases hl : l = k
    · subst hl
      simp only [hk, Option.some.injEq, exists_eq_left', true_and]
      split
      · next hempty =>
        rw [SortedMap.get?_erase_self]
        have hnot := not_contains_of_entries_isEmpty hempty t
        rw [contains_erase] at hnot
        simp only [reduceCtorEq, false_and, exists_false, false_iff]
        exact fun h => hnot ⟨h.2, h.1⟩
      · rw [SortedMap.get?_insert_self]
        simp only [Option.some.injEq, exists_eq_left', contains_erase]
        exact and_comm
    · simp only [hl, false_and, not_false_eq_true, and_true]
      split
      · rw [SortedMap.get?_erase_of_ne _ hl]
      · rw [SortedMap.get?_insert_of_ne _ _ hl]

theorem occupied_remove {ps : Postings} (h : ps.Occupied) (k : IndexKey) (s : String) :
    (ps.remove k s).Occupied := by
  intro l ss hl
  unfold remove at hl
  cases hk : ps.get? k with
  | none =>
    rw [hk] at hl
    exact h l ss hl
  | some rs =>
    simp only [hk] at hl
    split at hl
    · exact h l ss (SortedMap.get?_erase_eq_some_iff.1 hl).2
    · next hne =>
      rcases SortedMap.get?_insert_eq_some_iff.1 hl with ⟨_, rfl⟩ | ⟨_, hold⟩
      · exact exists_contains_of_entries hne
      · exact h l ss hold

/-- Occupied postings are determined by what they have. -/
theorem ext_has {ps qs : Postings} (hp : ps.Occupied) (hq : qs.Occupied)
    (h : ∀ k s, ps.Has k s ↔ qs.Has k s) : ps = qs := by
  have hsub {ps qs : Postings} (hp : ps.Occupied) (h : ∀ k s, ps.Has k s ↔ qs.Has k s)
      {k : IndexKey} {ss : SortedSet String} (hk : ps.get? k = some ss) : qs.get? k = some ss := by
    obtain ⟨s, hs⟩ := hp k ss hk
    obtain ⟨ts, hts, _⟩ := (h k s).1 ⟨ss, hk, hs⟩
    have heq : ss = ts := by
      apply SortedMap.set_ext
      intro t
      have ht := h k t
      simpa only [Has, hk, hts, Option.some.injEq, exists_eq_left'] using ht
    rw [hts, heq]
  apply SortedMap.ext_get?
  intro k
  apply Option.ext
  intro ss
  exact ⟨hsub hp h, hsub hq fun k s => (h k s).symm⟩

end Postings

/-! ## Mirroring -/

namespace SecondaryIndex

/-- The index key of what a record holds at the field of an index. -/
def key? (d : IndexDescriptor) (r : Record) : Option IndexKey :=
  (r.atPath? d.field).bind (IndexKey.ofValue? d.type)

/-- The point that a record holds at the field of an index. -/
def point? (d : IndexDescriptor) (r : Record) : Option Position :=
  match r.atPath? d.field with
  | some (.geo (.point p)) => some p
  | _ => none

end SecondaryIndex

/-- The content says of each record what it holds at the field. An index key has exactly the records
    that hold it, and there is no index key without one; a record has a point exactly if it holds
    that point. -/
inductive IndexContent.Mirrors (d : IndexDescriptor) (records : SortedMap String Record) :
    IndexContent → Prop
  | postings {ps : Postings} (type : d.type ≠ .geo2dSphere) (occupied : ps.Occupied)
      (has : ∀ k s, ps.Has k s ↔
        ∃ r, records.get? s = some r ∧ SecondaryIndex.key? d r = some k) :
      Mirrors d records (.postings ps)
  | points {map : SortedMap String Position} (type : d.type = .geo2dSphere)
      (get : ∀ s p, map.get? s = some p ↔
        ∃ r, records.get? s = some r ∧ SecondaryIndex.point? d r = some p) :
      Mirrors d records (.points map)

/-- What mirrors the same records is equal. -/
theorem IndexContent.Mirrors.unique {d : IndexDescriptor} {records : SortedMap String Record}
    {a b : IndexContent} (ha : a.Mirrors d records) (hb : b.Mirrors d records) : a = b := by
  cases ha with
  | postings htype hocc has =>
    cases hb with
    | postings _ hocc' has' =>
      rw [Postings.ext_has hocc hocc' fun k s => (has k s).trans (has' k s).symm]
    | points htype' _ => exact absurd htype' htype
  | points htype hget =>
    cases hb with
    | postings htype' _ _ => exact absurd htype htype'
    | points _ hget' =>
      rw [SortedMap.ext_get? fun s => Option.ext fun p => (hget s p).trans (hget' s p).symm]

namespace SecondaryIndex

/-- The index mirrors a map of records. -/
def Mirrors (ix : SecondaryIndex) (records : SortedMap String Record) : Prop :=
  ix.content.Mirrors ix.descriptor records

@[simp] theorem descriptor_insert (ix : SecondaryIndex) (r : Record) :
    (ix.insert r).descriptor = ix.descriptor := by
  unfold insert
  split
  · rfl
  · split
    · split <;> rfl
    · split <;> rfl

@[simp] theorem descriptor_remove (ix : SecondaryIndex) (r : Record) :
    (ix.remove r).descriptor = ix.descriptor := by
  unfold remove
  split
  · rfl
  · split
    · split <;> rfl
    · rfl

theorem mirrors_empty (d : IndexDescriptor) : (empty d).Mirrors .empty := by
  unfold Mirrors empty
  cases htype : d.type with
  | geo2dSphere =>
    refine .points htype ?_
    intro s p
    simp
  | _ =>
    refine .postings (by simp [htype]) Postings.occupied_empty ?_
    intro k s
    simp [Postings.not_has_empty]

end SecondaryIndex

/-! ## Records that come and go -/

section Selection

variable {α : Type} {records : SortedMap String Record} {r : Record}

/-- With a new record in the map, its value is there under its key. -/
theorem selects_insert (h : records.get? r.key = none) (f : Record → Option α) (s : String)
    (a : α) :
    (∃ q, (records.insert r.key r).get? s = some q ∧ f q = some a) ↔
      (f r = some a ∧ s = r.key) ∨ ∃ q, records.get? s = some q ∧ f q = some a := by
  by_cases hs : s = r.key
  · subst hs
    rw [SortedMap.get?_insert_self, h]
    simp
  · rw [SortedMap.get?_insert_of_ne _ _ hs]
    simp [hs]

/-- Without a record that was in the map, its value is gone from under its key. -/
theorem selects_erase (h : records.get? r.key = some r) (f : Record → Option α) (s : String)
    (a : α) :
    (∃ q, (records.erase r.key).get? s = some q ∧ f q = some a) ↔
      (∃ q, records.get? s = some q ∧ f q = some a) ∧ ¬ (f r = some a ∧ s = r.key) := by
  by_cases hs : s = r.key
  · subst hs
    rw [SortedMap.get?_erase_self, h]
    simp
  · rw [SortedMap.get?_erase_of_ne _ hs]
    simp [hs]

end Selection

namespace SecondaryIndex

variable {ix : SecondaryIndex} {r : Record} {records : SortedMap String Record}

theorem content_insert_postings {ps : Postings} (h : ix.content = .postings ps) :
    (ix.insert r).content =
      .postings (((key? ix.descriptor r).map fun k => ps.add k r.key).getD ps) := by
  unfold insert key?
  cases hpath : r.atPath? ix.descriptor.field with
  | none => simpa using h
  | some v =>
    simp only [h, Option.bind_some]
    cases hkey : IndexKey.ofValue? ix.descriptor.type v with
    | none => simpa using h
    | some k => rfl

theorem content_remove_postings {ps : Postings} (h : ix.content = .postings ps) :
    (ix.remove r).content =
      .postings (((key? ix.descriptor r).map fun k => ps.remove k r.key).getD ps) := by
  unfold remove key?
  cases hpath : r.atPath? ix.descriptor.field with
  | none => simpa using h
  | some v =>
    simp only [h, Option.bind_some]
    cases hkey : IndexKey.ofValue? ix.descriptor.type v with
    | none => simpa using h
    | some k => rfl

theorem content_insert_points {map : SortedMap String Position} (h : ix.content = .points map) :
    (ix.insert r).content =
      .points (((point? ix.descriptor r).map fun p => map.insert r.key p).getD map) := by
  unfold insert point?
  cases hpath : r.atPath? ix.descriptor.field with
  | none => simpa using h
  | some v =>
    simp only [h]
    split
    · rfl
    · next hne =>
      split
      · next p hp => exact absurd (Option.some.inj hp) (hne p)
      · simpa using h

theorem content_remove_points {map : SortedMap String Position} (h : ix.content = .points map) :
    (ix.remove r).content =
      .points (if (r.atPath? ix.descriptor.field).isSome then map.erase r.key else map) := by
  unfold remove
  cases hpath : r.atPath? ix.descriptor.field with
  | none => simpa using h
  | some v => simp only [h, Option.isSome_some, if_true]

theorem point?_of_atPath?_eq_none {d : IndexDescriptor} (h : r.atPath? d.field = none) :
    point? d r = none := by
  unfold point?
  rw [h]

end SecondaryIndex

namespace IndexContent.Mirrors

open SecondaryIndex

variable {d : IndexDescriptor} {r : Record} {records : SortedMap String Record}

theorem insert_postings {ps : Postings} (h : Mirrors d records (.postings ps))
    (hnew : records.get? r.key = none) :
    Mirrors d (records.insert r.key r)
      (.postings (((key? d r).map fun k => ps.add k r.key).getD ps)) := by
  cases h with
  | postings htype hocc has =>
    cases hkey : key? d r with
    | none =>
      refine .postings htype hocc ?_
      intro k s
      rw [selects_insert hnew, Option.map_none, Option.getD_none, has, hkey]
      simp
    | some l =>
      refine .postings htype (Postings.occupied_add hocc l r.key) ?_
      intro k s
      rw [selects_insert hnew, Option.map_some, Option.getD_some, Postings.has_add, has, hkey,
        Option.some.injEq, eq_comm (a := k)]

theorem insert_points {map : SortedMap String Position} (h : Mirrors d records (.points map))
    (hnew : records.get? r.key = none) :
    Mirrors d (records.insert r.key r)
      (.points (((point? d r).map fun p => map.insert r.key p).getD map)) := by
  cases h with
  | points htype hget =>
    cases hpoint : point? d r with
    | none =>
      refine .points htype ?_
      intro s p
      rw [selects_insert hnew, Option.map_none, Option.getD_none, hget, hpoint]
      simp
    | some q =>
      have hfree : map.get? r.key = none := by
        apply Option.eq_none_iff_forall_ne_some.2
        intro p hp
        obtain ⟨q, hq, _⟩ := (hget r.key p).1 hp
        rw [hnew] at hq
        contradiction
      refine .points htype ?_
      intro s p
      rw [selects_insert hnew, Option.map_some, Option.getD_some, SortedMap.get?_insert, hpoint,
        ← hget, Option.some.injEq]
      split
      · next hs => simp [hs, hfree]
      · next hs => simp [hs]

theorem remove_postings {ps : Postings} (h : Mirrors d records (.postings ps))
    (hold : records.get? r.key = some r) :
    Mirrors d (records.erase r.key)
      (.postings (((key? d r).map fun k => ps.remove k r.key).getD ps)) := by
  cases h with
  | postings htype hocc has =>
    cases hkey : key? d r with
    | none =>
      refine .postings htype hocc ?_
      intro k s
      rw [selects_erase hold, Option.map_none, Option.getD_none, has, hkey]
      simp
    | some l =>
      refine .postings htype (Postings.occupied_remove hocc l r.key) ?_
      intro k s
      rw [selects_erase hold, Option.map_some, Option.getD_some, Postings.has_remove, has, hkey,
        Option.some.injEq, eq_comm (a := k)]

theorem remove_points {map : SortedMap String Position} (h : Mirrors d records (.points map))
    (hold : records.get? r.key = some r) :
    Mirrors d (records.erase r.key)
      (.points (if (r.atPath? d.field).isSome then map.erase r.key else map)) := by
  cases h with
  | points htype hget =>
    refine .points htype ?_
    intro s p
    rw [selects_erase hold, ← hget]
    have hself : map.get? r.key = some p ↔ point? d r = some p := by
      rw [hget, hold]
      simp
    by_cases hs : s = r.key
    · rw [hs, hself]
      cases hpath : r.atPath? d.field with
      | none =>
        -- the record held no value, so it had no point to be removed
        simp [hself, point?_of_atPath?_eq_none hpath]
      | some v => simp [SortedMap.get?_erase_self]
    · split
      · rw [SortedMap.get?_erase_of_ne _ hs]
        simp [hs]
      · simp [hs]

end IndexContent.Mirrors

namespace SecondaryIndex

variable {ix : SecondaryIndex} {r : Record} {records : SortedMap String Record}

/-- Adding a record keeps the index in step with the map that the record is put into. -/
theorem mirrors_insert (h : ix.Mirrors records) (hnew : records.get? r.key = none) :
    (ix.insert r).Mirrors (records.insert r.key r) := by
  unfold Mirrors at h ⊢
  rw [descriptor_insert]
  cases hcontent : ix.content with
  | postings ps =>
    rw [hcontent] at h
    rw [content_insert_postings hcontent]
    exact h.insert_postings hnew
  | points map =>
    rw [hcontent] at h
    rw [content_insert_points hcontent]
    exact h.insert_points hnew

/-- Removing a record keeps the index in step with the map that the record is taken out of. -/
theorem mirrors_remove (h : ix.Mirrors records) (hold : records.get? r.key = some r) :
    (ix.remove r).Mirrors (records.erase r.key) := by
  unfold Mirrors at h ⊢
  rw [descriptor_remove]
  cases hcontent : ix.content with
  | postings ps =>
    rw [hcontent] at h
    rw [content_remove_postings hcontent]
    exact h.remove_postings hold
  | points map =>
    rw [hcontent] at h
    rw [content_remove_points hcontent]
    exact h.remove_points hold

/-- Records put into a map one after another, each under a key of its own, put the same records into
    an index. -/
theorem mirrors_foldl_insert {es : List (String × Record)} (hes : es.Pairwise fun a b => a.1 ≠ b.1)
    (hkeys : ∀ e ∈ es, e.2.key = e.1) (h : ix.Mirrors records)
    (hnew : ∀ e ∈ es, records.get? e.1 = none) :
    ((es.map Prod.snd).foldl insert ix).Mirrors
      (es.foldl (fun m e => m.insert e.1 e.2) records) := by
  induction es generalizing ix records with
  | nil => exact h
  | cons e es ih =>
    obtain ⟨he, hrest⟩ := List.pairwise_cons.1 hes
    have hkey : e.2.key = e.1 := hkeys e List.mem_cons_self
    have hnone : records.get? e.2.key = none := hkey ▸ hnew e List.mem_cons_self
    have hstep : (ix.insert e.2).Mirrors (records.insert e.1 e.2) := by
      have := mirrors_insert h hnone
      rwa [hkey] at this
    refine ih hrest (fun d hd => hkeys d (List.mem_cons_of_mem _ hd)) hstep ?_
    intro d hd
    rw [SortedMap.get?_insert_of_ne _ _ (he d hd).symm]
    exact hnew d (List.mem_cons_of_mem _ hd)

theorem mirrors_ofRecords (d : IndexDescriptor)
    (hkeys : ∀ s r, records.get? s = some r → r.key = s) :
    (ofRecords d records.values).Mirrors records := by
  have hfold := mirrors_foldl_insert
    (records.ascending.imp SortedMap.ne_of_compare_lt)
    (fun e he => hkeys e.1 e.2 (SortedMap.get?_eq_some_iff.2 he))
    (mirrors_empty d) (fun e _ => SortedMap.get?_empty e.1)
  have hlist := SortedMap.ofList_entries records
  unfold SortedMap.ofList at hlist
  rw [hlist] at hfold
  exact hfold

@[simp] theorem descriptor_ofRecords (d : IndexDescriptor) (rs : List Record) :
    (ofRecords d rs).descriptor = d := by
  have hfold (ix : SecondaryIndex) : (rs.foldl insert ix).descriptor = ix.descriptor := by
    induction rs generalizing ix with
    | nil => rfl
    | cons r rs ih => rw [List.foldl_cons, ih, descriptor_insert]
  exact hfold (empty d)

/-- An index that mirrors the records is the index built from them. -/
theorem Mirrors.eq_ofRecords (h : ix.Mirrors records)
    (hkeys : ∀ s r, records.get? s = some r → r.key = s) :
    ix = ofRecords ix.descriptor records.values := by
  have hbuilt := mirrors_ofRecords ix.descriptor hkeys
  unfold Mirrors at hbuilt
  rw [descriptor_ofRecords] at hbuilt
  have hcontent := IndexContent.Mirrors.unique h hbuilt
  have hdescriptor := descriptor_ofRecords ix.descriptor records.values
  generalize ofRecords ix.descriptor records.values = built at hcontent hdescriptor ⊢
  cases ix
  cases built
  cases hcontent
  cases hdescriptor
  rfl

end SecondaryIndex
end Quarry

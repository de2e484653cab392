-- SUMMARY: An index can hide the others on its field, and so take scans away.
import Quarry.Proofs.Scan.Answering
import Quarry.Proofs.Scan.Choosing

/-!
# Indexes that hide others

A collection may have several indexes on one field, but only the first one by name is reported and used. A
predicate that suits another one of them is not pushed. So a new index takes the place of the others on its
field if its name comes before theirs, and a scan that was pushed to one of them is then refused where whole
collections may not be read.
-/

namespace Quarry

/-! ## Indexes on the field of a predicate -/

namespace Collection

/-- The predicate suits an index on its field. -/
def Serves (c : Collection) (p : Predicate) : Prop :=
  ∃ i ix, c.indexes.get? i = some ix ∧ ix.descriptor.field = p.field ∧ p.Suits ix.descriptor.type

/-- The predicate does not suit the first index on its field. -/
def Shadows (c : Collection) (p : Predicate) : Prop :=
  ∃ i ix, c.FirstOn p.field i ix ∧ ¬ p.Suits ix.descriptor.type

/-- The name comes before those of all indexes on the field. -/
def Overtakes (c : Collection) (index field : String) : Prop :=
  ∀ i ix, c.indexes.get? i = some ix → ix.descriptor.field = field → compare index i = .lt

variable {c : Collection} {p : Predicate} {field : String}

theorem serves_and_not_shadows_iff :
    c.Serves p ∧ ¬ c.Shadows p ↔ ∃ ix, c.indexOn? p.field = some ix ∧ p.Suits ix.descriptor.type := by
  constructor
  · rintro ⟨⟨j, jx, hj, hon, -⟩, hshadows⟩
    cases hix : c.indexOn? p.field with
    | none => exact absurd hon (indexOn?_eq_none_iff.1 hix j jx hj)
    | some ix =>
      obtain ⟨i, hfirst⟩ := indexOn?_eq_some_iff.1 hix
      exact ⟨ix, rfl, Classical.byContradiction fun h => hshadows ⟨i, ix, hfirst, h⟩⟩
  · rintro ⟨ix, hix, hsuits⟩
    obtain ⟨i, hfirst⟩ := indexOn?_eq_some_iff.1 hix
    refine ⟨⟨i, ix, hfirst.get, hfirst.on, hsuits⟩, ?_⟩
    rintro ⟨j, jx, hfirst', hnot⟩
    obtain rfl := Option.some.inj (hix.symm.trans (indexOn?_eq_some_iff.2 ⟨j, hfirst'⟩))
    exact hnot hsuits

/-! ## A new index -/

variable {d : IndexDescriptor}

/-- A new index is the first one on its field if its name comes before the others. -/
theorem indexOn?_addIndex_of_overtakes (h : c.Overtakes d.name d.field) :
    (c.addIndex d).indexOn? d.field = some (.ofRecords d c.records.values) := by
  refine indexOn?_eq_some_iff.2 ⟨d.name, SortedMap.get?_insert_self _ _ _, ?_, ?_⟩
  · rw [SecondaryIndex.descriptor_ofRecords]
  · intro j jx hj hon
    rcases SortedMap.get?_insert_eq_some_iff.1 hj with ⟨rfl, -⟩ | ⟨-, hold⟩
    · rw [Std.compare_self]
      rfl
    · rw [h j jx hold hon]
      rfl

/-- Otherwise the first one stays, as it does on other fields. -/
theorem indexOn?_addIndex_of_not_overtakes (hnew : ¬ c.indexes.contains d.name = true)
    (h : ¬ (field = d.field ∧ c.Overtakes d.name field)) :
    (c.addIndex d).indexOn? field = c.indexOn? field := by
  cases hix : c.indexOn? field with
  | none =>
    have hnone := indexOn?_eq_none_iff.1 hix
    refine indexOn?_eq_none_iff.2 fun j jx hj hon => ?_
    rcases SortedMap.get?_insert_eq_some_iff.1 hj with ⟨-, rfl⟩ | ⟨-, hold⟩
    · rw [SecondaryIndex.descriptor_ofRecords] at hon
      exact h ⟨hon.symm, fun i ix hi hfield => absurd hfield (hnone i ix hi)⟩
    · exact hnone j jx hold hon
  | some ix =>
    obtain ⟨i, hfirst⟩ := indexOn?_eq_some_iff.1 hix
    have hne : i ≠ d.name := by
      rintro rfl
      exact hnew (SortedMap.contains_iff.2 ⟨ix, hfirst.get⟩)
    refine indexOn?_eq_some_iff.2 ⟨i, ?_, hfirst.on, ?_⟩
    · exact (SortedMap.get?_insert_of_ne _ _ hne).trans hfirst.get
    · intro j jx hj hon
      rcases SortedMap.get?_insert_eq_some_iff.1 hj with ⟨rfl, rfl⟩ | ⟨-, hold⟩
      · -- some index on the field has a name before the new one, and the first one is before it
        rw [SecondaryIndex.descriptor_ofRecords] at hon
        obtain ⟨k, kx, hk, hkfield, hlt⟩ : ∃ k kx, c.indexes.get? k = some kx ∧
            kx.descriptor.field = field ∧ compare d.name k ≠ .lt := by
          simpa [Overtakes, hon] using h
        have hle : (compare k d.name).isLE = true := by
          rw [Std.OrientedOrd.eq_swap]
          cases hcompare : compare d.name k with
          | lt => exact absurd hcompare hlt
          | _ => rfl
        exact Std.TransCmp.isLE_trans (hfirst.least k kx hk hkfield) hle
      · exact hfirst.least j jx hold hon

/-- After a new index the first one on the field suits the predicate if it is the new one and suits it, or
    is an old one and did. -/
theorem serves_and_not_shadows_addIndex_iff (hnew : ¬ c.indexes.contains d.name = true) :
    (c.addIndex d).Serves p ∧ ¬ (c.addIndex d).Shadows p ↔
      (p.field = d.field ∧ c.Overtakes d.name p.field → p.Suits d.type) ∧
      (¬ (p.field = d.field ∧ c.Overtakes d.name p.field) → c.Serves p ∧ ¬ c.Shadows p) := by
  rw [serves_and_not_shadows_iff, serves_and_not_shadows_iff]
  by_cases h : p.field = d.field ∧ c.Overtakes d.name p.field
  · have hfirst := indexOn?_addIndex_of_overtakes (h.1 ▸ h.2)
    rw [h.1, hfirst]
    simp [SecondaryIndex.descriptor_ofRecords, h.1 ▸ h.2]
  · rw [indexOn?_addIndex_of_not_overtakes hnew h]
    simp [h]

end Collection

/-! ## Planning over a store -/

variable {s : Store} {c : Collection}

/-- The predicates that can be pushed to a store are those that suit the first index on their field. -/
theorem Store.eligible_iff {name : String} {p : Predicate} (hc : s.collections.get? name = some c) :
    p.Eligible s.catalog name ↔ p.Plain ∧ c.Serves p ∧ ¬ c.Shadows p := by
  rw [Collection.serves_and_not_shadows_iff]
  constructor
  · rintro ⟨hplain, d, hd, hsuits⟩
    rw [catalog_eq hc] at hd
    obtain ⟨ix, hix, rfl⟩ := Option.map_eq_some_iff.1 hd
    exact ⟨hplain, ix, hix, hsuits⟩
  · rintro ⟨hplain, ix, hix, hsuits⟩
    refine ⟨hplain, ix.descriptor, ?_, hsuits⟩
    rw [catalog_eq hc, hix]
    rfl

theorem Store.createIndex_eq_ok {name index field : String} {type : IndexType} {s' : Store}
    (hc : s.collections.get? name = some c) (h : s.createIndex name index field type = .ok s') :
    ¬ c.indexes.contains index = true ∧ s' = s.set name (c.addIndex ⟨name, index, field, type⟩) := by
  obtain ⟨c', hc', hcreate⟩ := exists_collection_of_bind_eq_ok h
  obtain rfl := Option.some.inj (hc'.symm.trans hc)
  split at hcreate
  · contradiction
  · next hnew => exact ⟨hnew, (Except.ok.inj hcreate).symm⟩

theorem Store.Reachable.createIndex (hs : s.Reachable) {name index field : String} {type : IndexType}
    {s' : Store} (h : s.createIndex name index field type = .ok s') : s'.Reachable := by
  have hupdate := hs.update (.createIndex name index field type)
  rwa [Store.update, h] at hupdate

namespace Plan

variable {catalog : Catalog} {config : Config} {name : String} {t : PredicateTree}

/-- Planning pushes something if the tree is valid and a conjunct of it is eligible. -/
theorem ofRequest_pushes_iff :
    (∃ plan query, ofRequest catalog config name (some t) none = .ok plan ∧ plan.pushed = some query) ↔
      t.fault? = none ∧ ∃ p : Predicate, p.IsConjunct t ∧ p.Eligible catalog name := by
  rw [← exists_pushed_iff]
  constructor
  · rintro ⟨plan, query, hplan, hpushed⟩
    refine ⟨?_, query, ?_⟩
    · cases hfault : t.fault? with
      | none => rfl
      | some e => simp [ofRequest, hfault] at hplan
    · rw [← hpushed, eq_free_of_ofRequest hplan]
      rfl
  · rintro ⟨hvalid, query, hpushed⟩
    refine ⟨ofTree catalog name t, query, ?_, hpushed⟩
    have htree : ∀ u, some t = some u → u.fault? = none := by
      rintro u ⟨⟩
      exact hvalid
    rw [ofRequest_of_valid htree]
    simp [free, isFullScan, hpushed]

/-- Where whole collections may not be read, there is a plan just if something is pushed. -/
theorem exists_ofRequest_iff (hscans : config.scansEnabled = false) :
    (∃ plan, ofRequest catalog config name (some t) none = .ok plan) ↔
      t.fault? = none ∧ ∃ p : Predicate, p.IsConjunct t ∧ p.Eligible catalog name := by
  rw [← @ofRequest_pushes_iff catalog config name t]
  constructor
  · rintro ⟨plan, hplan⟩
    have hfull : plan.isFullScan = false := by
      unfold ofRequest at hplan
      split at hplan
      · contradiction
      · dsimp only at hplan
        split at hplan
        · contradiction
        · next hguard =>
          rw [hscans] at hguard
          rw [← Except.ok.inj hplan]
          simpa using hguard
    obtain ⟨query, hquery⟩ := Option.isSome_iff_exists.1 (Option.isNone_eq_false_iff.1 hfull)
    exact ⟨plan, query, hplan, hquery⟩
  · rintro ⟨plan, _, hplan, -⟩
    exact ⟨plan, hplan⟩

end Plan

namespace Engine

variable {q : Request} (test : GeometryTest) (config : Config) (ev : Evaluator)

/-- A scan of a collection that is there is accepted if there is a plan for it. -/
theorem select_isOk_iff (hs : s.Reachable) (hc : s.collections.get? q.collection = some c)
    (hhint : q.hint = none) :
    ((onStore test s config ev).select q).isOk = true ↔
      ∃ plan, Plan.ofRequest s.catalog config q.collection q.tree none = .ok plan := by
  constructor
  · intro h
    cases hselect : (onStore test s config ev).select q with
    | error e =>
      rw [hselect] at h
      contradiction
    | ok cursor =>
      obtain ⟨plan, _, hplan, -⟩ := select_eq_ok hselect
      rw [hhint] at hplan
      exact ⟨plan, hplan⟩
  · rintro ⟨plan, hplan⟩
    rcases openPlan_of_ofRequest test config ev hs hplan with ⟨source, hopen, -⟩ | ⟨hmissing, -⟩
    · rw [← hhint] at hplan
      have hselect := select_of_planned (e := onStore test s config ev) hplan
      rw [hselect, hopen]
      rfl
    · rw [hc] at hmissing
      contradiction

/-- Planning pushes something just if the tree is valid and a plain conjunct suits some index on its field, the
    first one included. Where whole collections may not be read, a scan that was accepted is still accepted
    after a new index just if there is a plain conjunct that suits the new index, if this one comes first on
    the field of the conjunct, and that otherwise suited the first of the indexes that were there. -/
theorem select_after_createIndex_iff (hs : s.Reachable)
    (hc : s.collections.get? q.collection = some c) {t : PredicateTree} (htree : q.tree = some t)
    (hhint : q.hint = none) :
    ((∃ plan query, Plan.ofRequest s.catalog config q.collection q.tree q.hint = .ok plan ∧
        plan.pushed = some query) ↔
      t.fault? = none ∧ ∃ p : Predicate, p.IsConjunct t ∧ p.Plain ∧ c.Serves p ∧ ¬ c.Shadows p) ∧
    (config.scansEnabled = false → ((onStore test s config ev).select q).isOk = true →
      ∀ index field type s', s.createIndex q.collection index field type = .ok s' →
        (((onStore test s' config ev).select q).isOk = true ↔
          ∃ p : Predicate, p.IsConjunct t ∧ p.Plain ∧
            (p.field = field ∧ c.Overtakes index p.field → p.Suits type) ∧
            (¬ (p.field = field ∧ c.Overtakes index p.field) → c.Serves p ∧ ¬ c.Shadows p))) := by
  constructor
  · rw [htree, hhint, Plan.ofRequest_pushes_iff]
    refine and_congr_right fun _ => exists_congr fun p => and_congr_right fun _ => ?_
    exact Store.eligible_iff hc
  · intro hscans haccepted index field type s' hcreate
    obtain ⟨hnew, hstore⟩ := Store.createIndex_eq_ok hc hcreate
    have hc' : s'.collections.get? q.collection =
        some (c.addIndex ⟨q.collection, index, field, type⟩) := by
      rw [hstore]
      exact SortedMap.get?_insert_self _ _ _
    have hvalid : t.fault? = none := by
      rw [select_isOk_iff test config ev hs hc hhint, htree, Plan.exists_ofRequest_iff hscans] at haccepted
      exact haccepted.1
    rw [select_isOk_iff test config ev (hs.createIndex hcreate) hc' hhint, htree,
      Plan.exists_ofRequest_iff hscans, and_iff_right hvalid]
    refine exists_congr fun p => and_congr_right fun _ => ?_
    rw [Store.eligible_iff hc']
    exact and_congr_right fun _ => Collection.serves_and_not_shadows_addIndex_iff hnew

/-- A store with an index of numbers. -/
def numbered : Store :=
  Store.empty.updates
    [.createCollection "c", .createIndex "c" "b" "n" .numeric,
      .put "c" ⟨"a", .ofList [("n", .int 7)], 0, none⟩]

/-- The condition that `n` is 7. -/
def isSeven : Predicate :=
  ⟨"n", .eq, .int 7, none, false, none, by rfl⟩

/-- The records with 7 as `n`. -/
def sevens : Request where
  collection := "c"
  tree := some (.leaf isSeven)
  hint := none
  maxRecords := none

/-- The policy under which no scan may read a whole collection. -/
def strict : Config :=
  { scansEnabled := false }

/-- An index of texts whose name comes later takes nothing away. -/
theorem select_after_createIndex_iff_later :
    ∃ s', numbered.createIndex "c" "d" "n" .string = .ok s' ∧
      ((onStore .containment numbered strict .containment).select sevens).isOk = true ∧
      ((onStore .containment s' strict .containment).select sevens).isOk = true := by
  let s' := ((numbered.createIndex "c" "d" "n" .string).toOption).getD .empty
  have hcreate : numbered.createIndex "c" "d" "n" .string = .ok s' := by rfl
  let c := (numbered.collections.get? "c").getD {}
  have hc : numbered.collections.get? "c" = some c := by rfl
  have haccepted : ((onStore .containment numbered strict .containment).select sevens).isOk = true := by rfl
  obtain ⟨hpushes, hkept⟩ := select_after_createIndex_iff (q := sevens) .containment strict .containment
    (.updates .empty _) hc rfl rfl
  obtain ⟨-, p, hconjunct, hplain, hserves⟩ := hpushes.1 ⟨_, _, rfl, rfl⟩
  refine ⟨s', hcreate, haccepted, (hkept rfl haccepted _ _ _ s' hcreate).2
    ⟨p, hconjunct, hplain, ?_, fun _ => hserves⟩⟩
  rintro ⟨hfield, hovertakes⟩
  obtain ⟨ix, hix, hon⟩ : ∃ ix, c.indexes.get? "b" = some ix ∧ ix.descriptor.field = "n" :=
    ⟨_, by rfl, by rfl⟩
  have hlt := hovertakes "b" ix hix (hon.trans hfield.symm)
  contradiction

/-- An index of texts whose name comes earlier takes the index of numbers away: it is still there and suits
    the condition, but nothing is pushed, and the scan that was accepted is refused. -/
theorem select_lost_to_createIndex :
    ∃ s' c, numbered.createIndex "c" "a" "n" .string = .ok s' ∧ s'.collections.get? "c" = some c ∧
      isSeven.Plain ∧ c.Serves isSeven ∧
      Plan.ofRequest s'.catalog {} "c" (some (.leaf isSeven)) none = .ok ⟨none, some (.leaf isSeven)⟩ ∧
      ((onStore .containment numbered strict .containment).select sevens).isOk = true ∧
      (onStore .containment s' strict .containment).select sevens = .error (.scansDisabled "c") := by
  let s' := ((numbered.createIndex "c" "a" "n" .string).toOption).getD .empty
  let c := (s'.collections.get? "c").getD {}
  have hplain : isSeven.Plain := ⟨rfl, rfl⟩
  have hserves : c.Serves isSeven := ⟨"b", _, by rfl, by rfl, .comparison rfl rfl⟩
  exact ⟨s', c, by rfl, by rfl, hplain, hserves, by rfl, by rfl, by rfl⟩

end Engine

end Quarry

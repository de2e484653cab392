-- SUMMARY: The stores that histories of changes lead to, and what holds of all of them.
import Quarry.Proofs.Index.Content
import Quarry.Proofs.Outcome
import Quarry.Geometry.Containment
import Quarry.Store.Basic

/-!
# Reachable stores

A store is reachable if some sequence of changes leads to it from the empty store. In a reachable
store every record stands under its own key, and every index mirrors the records of its collection:
putting a record takes the previous version out of the indexes before the new one is added, deleting
takes the record out, and a new index starts with the records that are there.
-/

namespace Quarry

/-! ## Changes -/

/-- What can be asked of a store that may change it. -/
inductive Update where
  | createCollection (name : String)
  | put (name : String) (r : Record)
  | delete (name key : String)
  | createIndex (name index field : String) (type : IndexType)
  | dropIndex (name index : String)

namespace Store

/-- The store after a change. A change that fails leaves the store as it is. -/
def update (s : Store) : Update → Store
  | .createCollection name => s.createCollection name
  | .put name r => ((s.put name r).toOption.map Prod.fst).getD s
  | .delete name key => ((s.delete name key).toOption.map Prod.fst).getD s
  | .createIndex name index field type => ((s.createIndex name index field type).toOption).getD s
  | .dropIndex name index => ((s.dropIndex name index).toOption.map Prod.fst).getD s

/-- The store after several changes. -/
def updates (s : Store) (us : List Update) : Store :=
  us.foldl update s

/-- The stores that changes lead to. -/
inductive Reachable : Store → Prop
  | empty : Reachable .empty
  | update {s : Store} (u : Update) : Reachable s → Reachable (s.update u)

end Store

/-! ## Collections -/

namespace Collection

/-- Records are under their own keys, and the indexes are in step with them. -/
structure Consistent (c : Collection) : Prop where
  keyed : ∀ s r, c.records.get? s = some r → r.key = s
  mirrored : ∀ i ix, c.indexes.get? i = some ix → ix.Mirrors c.records

variable {c : Collection}

theorem consistent_default : Consistent {} where
  keyed s r h := by
    rw [SortedMap.get?_empty] at h
    contradiction
  mirrored i ix h := by
    rw [SortedMap.get?_empty] at h
    contradiction

@[simp] theorem key_stamp (previous : Option Record) (r : Record) : (stamp previous r).key = r.key :=
  rfl

theorem records_put (c : Collection) (r : Record) :
    (c.put r).1.records = c.records.insert r.key (stamp (c.records.get? r.key) r) := rfl

theorem indexes_put (c : Collection) (r : Record) (i : String) :
    (c.put r).1.indexes.get? i = (c.indexes.get? i).map fun ix =>
      (((c.records.get? r.key).map ix.remove).getD ix).insert (stamp (c.records.get? r.key) r) :=
  SortedMap.get?_mapValues _ _ _

/-- An index without the previous version of a record is ready for the next one. -/
theorem mirrors_without_previous (h : c.Consistent) {ix : SecondaryIndex}
    (hix : ix.Mirrors c.records) (key : String) :
    (((c.records.get? key).map ix.remove).getD ix).Mirrors (c.records.erase key) := by
  cases hprevious : c.records.get? key with
  | none =>
    rw [SortedMap.erase_of_get?_eq_none hprevious]
    exact hix
  | some previous =>
    obtain rfl := h.keyed key previous hprevious
    exact SecondaryIndex.mirrors_remove hix hprevious

theorem Consistent.put (h : c.Consistent) (r : Record) : (c.put r).1.Consistent where
  keyed s q hq := by
    rw [records_put] at hq
    rcases SortedMap.get?_insert_eq_some_iff.1 hq with ⟨rfl, rfl⟩ | ⟨_, hold⟩
    · exact key_stamp _ r
    · exact h.keyed s q hold
  mirrored i ix hix := by
    rw [indexes_put] at hix
    obtain ⟨old, hold, rfl⟩ := Option.map_eq_some_iff.1 hix
    have hwithout := mirrors_without_previous h (h.mirrored i old hold) r.key
    have hinsert := SecondaryIndex.mirrors_insert (r := stamp (c.records.get? r.key) r) hwithout
      (SortedMap.get?_erase_self _ _)
    rw [key_stamp, SortedMap.insert_erase] at hinsert
    rw [records_put]
    exact hinsert

theorem Consistent.delete? (h : c.Consistent) {key : String} {d : Collection}
    (hd : c.delete? key = some d) : d.Consistent := by
  unfold Collection.delete? at hd
  obtain ⟨previous, hprevious, rfl⟩ := Option.map_eq_some_iff.1 hd
  constructor
  · intro s q hq
    exact h.keyed s q (SortedMap.get?_erase_eq_some_iff.1 hq).2
  · intro i ix hix
    rw [SortedMap.get?_mapValues] at hix
    obtain ⟨old, hold, rfl⟩ := Option.map_eq_some_iff.1 hix
    obtain rfl := h.keyed key previous hprevious
    exact SecondaryIndex.mirrors_remove (h.mirrored i old hold) hprevious

theorem Consistent.addIndex (h : c.Consistent) (d : IndexDescriptor) :
    (c.addIndex d).Consistent where
  keyed := h.keyed
  mirrored i ix hix := by
    rcases SortedMap.get?_insert_eq_some_iff.1 hix with ⟨_, rfl⟩ | ⟨_, hold⟩
    · exact SecondaryIndex.mirrors_ofRecords d h.keyed
    · exact h.mirrored i ix hold

theorem Consistent.dropIndex? (h : c.Consistent) {name : String} {d : Collection}
    (hd : c.dropIndex? name = some d) : d.Consistent := by
  unfold Collection.dropIndex? at hd
  split at hd
  · obtain rfl := Option.some.inj hd
    refine ⟨h.keyed, ?_⟩
    intro i ix hix
    exact h.mirrored i ix (SortedMap.get?_erase_eq_some_iff.1 hix).2
  · contradiction

end Collection

/-! ## Stores -/

namespace Store

/-- Every collection of the store is consistent. -/
def Consistent (s : Store) : Prop :=
  ∀ name c, s.collections.get? name = some c → c.Consistent

variable {s : Store}

theorem collection_eq_ok_iff {name : String} {c : Collection} :
    s.collection name = .ok c ↔ s.collections.get? name = some c := by
  unfold collection
  split
  · next d hd => rw [hd, Except.ok.injEq, Option.some.injEq]
  · next hd => simp [hd]

/-- An operation on a collection gives a result only if the collection is there. -/
theorem exists_collection_of_bind_eq_ok {α : Type} {name : String}
    {f : Collection → Except StoreError α} {a : α} (h : (s.collection name >>= f) = .ok a) :
    ∃ c, s.collections.get? name = some c ∧ f c = .ok a := by
  obtain ⟨c, hc, hf⟩ := bind_eq_ok_iff.1 h
  exact ⟨c, collection_eq_ok_iff.1 hc, hf⟩

theorem Consistent.set (h : s.Consistent) (name : String) {c : Collection} (hc : c.Consistent) :
    (s.set name c).Consistent := by
  intro n d hd
  rcases SortedMap.get?_insert_eq_some_iff.1 hd with ⟨_, rfl⟩ | ⟨_, hold⟩
  · exact hc
  · exact h n d hold

theorem consistent_empty : Store.empty.Consistent := by
  intro name c hc
  rw [empty, SortedMap.get?_empty] at hc
  contradiction

theorem Consistent.createCollection (h : s.Consistent) (name : String) :
    (s.createCollection name).Consistent := by
  unfold Store.createCollection
  split
  · exact h
  · exact h.set name Collection.consistent_default

theorem Consistent.put (h : s.Consistent) {name : String} {r : Record} {t : Store × UInt32}
    (ht : s.put name r = .ok t) : t.1.Consistent := by
  obtain ⟨c, hc, hput⟩ := exists_collection_of_bind_eq_ok ht
  split at hput
  · obtain rfl := Except.ok.inj hput
    exact h.set name ((h name c hc).put r)
  · contradiction

theorem Consistent.delete (h : s.Consistent) {name key : String} {t : Store × Bool}
    (ht : s.delete name key = .ok t) : t.1.Consistent := by
  obtain ⟨c, hc, hdelete⟩ := exists_collection_of_bind_eq_ok ht
  split at hdelete
  · next d hd =>
    obtain rfl := Except.ok.inj hdelete
    exact h.set name ((h name c hc).delete? hd)
  · obtain rfl := Except.ok.inj hdelete
    exact h

theorem Consistent.createIndex (h : s.Consistent) {name index field : String} {type : IndexType}
    {t : Store} (ht : s.createIndex name index field type = .ok t) : t.Consistent := by
  obtain ⟨c, hc, hcreate⟩ := exists_collection_of_bind_eq_ok ht
  split at hcreate
  · contradiction
  · obtain rfl := Except.ok.inj hcreate
    exact h.set name ((h name c hc).addIndex _)

theorem Consistent.dropIndex (h : s.Consistent) {name index : String} {t : Store × Bool}
    (ht : s.dropIndex name index = .ok t) : t.1.Consistent := by
  obtain ⟨c, hc, hdrop⟩ := exists_collection_of_bind_eq_ok ht
  split at hdrop
  · next d hd =>
    obtain rfl := Except.ok.inj hdrop
    exact h.set name ((h name c hc).dropIndex? hd)
  · obtain rfl := Except.ok.inj hdrop
    exact h

/-- What holds of a store and of every result of an operation holds after the operation. -/
theorem getD_of_toOption {P : Store → Prop} {result : Except StoreError Store} (hs : P s)
    (h : ∀ t, result = .ok t → P t) : P (result.toOption.getD s) := by
  cases result with
  | error e => exact hs
  | ok t => exact h t rfl

theorem getD_of_toOption_fst {α : Type} {P : Store → Prop} {result : Except StoreError (Store × α)}
    (hs : P s) (h : ∀ t, result = .ok t → P t.1) :
    P ((result.toOption.map Prod.fst).getD s) := by
  cases result with
  | error e => exact hs
  | ok t => exact h t rfl

theorem Consistent.update (h : s.Consistent) (u : Update) : (s.update u).Consistent := by
  cases u with
  | createCollection name => exact h.createCollection name
  | put name r => exact getD_of_toOption_fst h fun _ => h.put
  | delete name key => exact getD_of_toOption_fst h fun _ => h.delete
  | createIndex name index field type => exact getD_of_toOption h fun _ => h.createIndex
  | dropIndex name index => exact getD_of_toOption_fst h fun _ => h.dropIndex

theorem Reachable.consistent (h : s.Reachable) : s.Consistent := by
  induction h with
  | empty => exact consistent_empty
  | update u _ ih => exact ih.update u

theorem Reachable.updates {s : Store} (h : s.Reachable) (us : List Update) :
    (s.updates us).Reachable := by
  induction us generalizing s with
  | nil => exact h
  | cons u us ih => exact ih (h.update u)

/-- In every store that changes lead to, each index of each collection is the index built afresh from
    the records that are there, and holds what they hold at its field and nothing else. The records
    are under their own keys. -/
theorem Reachable.index_mirrors_records {s : Store} (hs : s.Reachable) {name i : String}
    {c : Collection} {ix : SecondaryIndex} (hc : s.collections.get? name = some c)
    (hix : c.indexes.get? i = some ix) :
    ix = .ofRecords ix.descriptor c.records.values ∧ ix.Mirrors c.records ∧
      ∀ s r, c.records.get? s = some r → r.key = s := by
  have hconsistent := hs.consistent name c hc
  have hmirrors := hconsistent.mirrored i ix hix
  exact ⟨hmirrors.eq_ofRecords hconsistent.keyed, hmirrors, hconsistent.keyed⟩

/-- A store in which a number under an index became a text. -/
def retyped : Store :=
  empty.updates
    [.createCollection "c", .createIndex "c" "i" "n" .numeric,
      .put "c" ⟨"a", .ofList [("n", .int 1)], 0, none⟩,
      .put "c" ⟨"b", .ofList [("n", .int 1)], 0, none⟩,
      .put "c" ⟨"a", .ofList [("n", .string "one")], 0, none⟩]

theorem retyped_index_mirrors_records :
    ∃ c ix, retyped.collections.get? "c" = some c ∧ c.indexes.get? "i" = some ix ∧
      (ix.lookup .containment ⟨"n", .eq, .int 1, none⟩).toOption = some ["b"] ∧
      ix = .ofRecords ix.descriptor c.records.values ∧ ix.Mirrors c.records ∧
      ∀ s r, c.records.get? s = some r → r.key = s := by
  have hanswer : ((retyped.collections.get? "c").bind fun c => (c.indexes.get? "i").bind fun ix =>
      (ix.lookup .containment ⟨"n", .eq, .int 1, none⟩).toOption) = some ["b"] := by decide +kernel
  obtain ⟨c, hc, h⟩ := Option.bind_eq_some_iff.1 hanswer
  obtain ⟨ix, hix, hkeys⟩ := Option.bind_eq_some_iff.1 h
  exact ⟨c, ix, hc, hix, hkeys, Reachable.index_mirrors_records (.updates .empty _) hc hix⟩

end Store

end Quarry

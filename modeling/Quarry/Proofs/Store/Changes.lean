-- SUMMARY: What one change can do to a store, and what therefore holds of every collection.
import Quarry.Proofs.Store.Reachable

/-!
# Changes to one collection

A change leaves the store as it is, adds an empty collection, or changes one collection in one of four ways.
What holds of empty collections and is kept by these four ways holds of every collection of every reachable
store.
-/

namespace Quarry

/-- The collection that a change is for. -/
def Update.collection : Update → String
  | .createCollection name => name
  | .put name _ => name
  | .delete name _ => name
  | .createIndex name _ _ _ => name
  | .dropIndex name _ => name

/-- What one change can make of a collection of the given name. -/
inductive Collection.Change (name : String) (c : Collection) : Collection → Prop
  | put (r : Record) (h : encodable r = true) : Change name c (c.put r).1
  | delete {d : Collection} (key : String) (h : c.delete? key = some d) : Change name c d
  | addIndex (index field : String) (type : IndexType) (h : ¬ c.indexes.contains index = true) :
    Change name c (c.addIndex ⟨name, index, field, type⟩)
  | dropIndex {d : Collection} (index : String) (h : c.dropIndex? index = some d) : Change name c d

namespace Store

/-- What a change that is for one collection can make of a store. -/
inductive Effect (s : Store) (name : String) : Store → Prop
  | unchanged : Effect s name s
  | created (h : s.collections.get? name = none) : Effect s name (s.set name {})
  | changed {c d : Collection} (h : s.collections.get? name = some c) (hchange : c.Change name d) :
    Effect s name (s.set name d)

variable {s t : Store} {name : String}

/-! ## One change -/

theorem effect_createCollection (s : Store) (name : String) :
    s.Effect name (s.createCollection name) := by
  unfold createCollection
  split
  · exact .unchanged
  · next hnew => exact .created (by simpa [SortedMap.contains] using hnew)

theorem effect_put {r : Record} {result : Store × UInt32} (h : s.put name r = .ok result) :
    s.Effect name result.1 := by
  obtain ⟨c, hc, hput⟩ := exists_collection_of_bind_eq_ok h
  split at hput
  · next hencodable =>
    obtain rfl := Except.ok.inj hput
    exact .changed hc (.put r hencodable)
  · contradiction

theorem effect_delete {key : String} {result : Store × Bool} (h : s.delete name key = .ok result) :
    s.Effect name result.1 := by
  obtain ⟨c, hc, hdelete⟩ := exists_collection_of_bind_eq_ok h
  split at hdelete
  · next d hd =>
    obtain rfl := Except.ok.inj hdelete
    exact .changed hc (.delete key hd)
  · obtain rfl := Except.ok.inj hdelete
    exact .unchanged

theorem effect_createIndex {index field : String} {type : IndexType}
    (h : s.createIndex name index field type = .ok t) : s.Effect name t := by
  obtain ⟨c, hc, hcreate⟩ := exists_collection_of_bind_eq_ok h
  split at hcreate
  · contradiction
  · next hnew =>
    obtain rfl := Except.ok.inj hcreate
    exact .changed hc (.addIndex index field type hnew)

theorem effect_dropIndex {index : String} {result : Store × Bool}
    (h : s.dropIndex name index = .ok result) : s.Effect name result.1 := by
  obtain ⟨c, hc, hdrop⟩ := exists_collection_of_bind_eq_ok h
  split at hdrop
  · next d hd =>
    obtain rfl := Except.ok.inj hdrop
    exact .changed hc (.dropIndex index hd)
  · obtain rfl := Except.ok.inj hdrop
    exact .unchanged

/-- All that a change can do to a store. -/
theorem effect_update (s : Store) (u : Update) : s.Effect u.collection (s.update u) := by
  cases u with
  | createCollection name => exact effect_createCollection s name
  | put name r => exact getD_of_toOption_fst .unchanged fun _ => effect_put
  | delete name key => exact getD_of_toOption_fst .unchanged fun _ => effect_delete
  | createIndex name index field type => exact getD_of_toOption .unchanged fun _ => effect_createIndex
  | dropIndex name index => exact getD_of_toOption_fst .unchanged fun _ => effect_dropIndex

/-- A change is to its own collection only. -/
theorem Effect.get?_of_ne (h : s.Effect name t) {other : String} (hother : other ≠ name) :
    t.collections.get? other = s.collections.get? other := by
  cases h with
  | unchanged => rfl
  | created => exact SortedMap.get?_insert_of_ne _ _ hother
  | changed => exact SortedMap.get?_insert_of_ne _ _ hother

/-! ## Many changes -/

/-- What holds of every collection, also of empty ones, and is kept by changes to one. -/
theorem Effect.collections {P : String → Collection → Prop} (hempty : ∀ name, P name {})
    (hchange : ∀ name c d, Collection.Change name c d → P name c → P name d)
    (hs : ∀ name c, s.collections.get? name = some c → P name c) (h : s.Effect name t) :
    ∀ name c, t.collections.get? name = some c → P name c := by
  have hset {d : Collection} (hd : P name d) :
      ∀ other c, (s.set name d).collections.get? other = some c → P other c := by
    intro other c hc
    rcases SortedMap.get?_insert_eq_some_iff.1 hc with ⟨rfl, rfl⟩ | ⟨-, hold⟩
    · exact hd
    · exact hs other c hold
  cases h with
  | unchanged => exact hs
  | created => exact hset (hempty name)
  | changed hc hd => exact hset (hchange name _ _ hd (hs name _ hc))

/-- What holds of empty collections and is kept by every change holds of all collections of a reachable
    store. -/
theorem Reachable.collections {P : String → Collection → Prop} (hempty : ∀ name, P name {})
    (hchange : ∀ name c d, Collection.Change name c d → P name c → P name d) (hs : s.Reachable) :
    ∀ name c, s.collections.get? name = some c → P name c := by
  induction hs with
  | empty =>
    intro name c hc
    rw [Store.empty, SortedMap.get?_empty] at hc
    contradiction
  | @update s u _ ih => exact (effect_update s u).collections hempty hchange ih

end Store

end Quarry

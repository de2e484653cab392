-- SUMMARY: Stores as plain maps: the operations on them without indexes, and that stores follow them.
import Quarry.Proofs.Store.Reachable
import Quarry.Proofs.Text.ByteOrder

/-!
# Plain stores

A plain store is a map from the names of collections to maps from keys to what was stored under them.
It has no indexes, and nothing in it has an order. A store is a plain store together with indexes: an
operation gives the same result on both, and leaves them in step.
-/

namespace Quarry

/-! ## Maps -/

/-- A map from texts. -/
abbrev Assoc (α : Type) : Type :=
  String → Option α

namespace Assoc

variable {α : Type}

def empty : Assoc α :=
  fun _ => none

/-- The map with a key taken to a value, or to none. -/
def set (m : Assoc α) (k : String) (v : Option α) : Assoc α :=
  fun l => if l = k then v else m l

/-- The keys of a map, each once, in the order of their bytes. -/
structure Listing (m : Assoc α) (keys : List String) : Prop where
  ascending : keys.Pairwise fun k l => Text.bytes k < Text.bytes l
  complete : ∀ k, k ∈ keys ↔ (m k).isSome = true

theorem Listing.unique {m : Assoc α} {keys others : List String} (h : m.Listing keys)
    (ho : m.Listing others) : keys = others := by
  have hnodup {ks : List String} (hks : m.Listing ks) : ks.Nodup := by
    refine hks.ascending.imp fun hlt heq => ?_
    rw [heq] at hlt
    exact List.lt_irrefl _ hlt
  have hperm : keys.Perm others := by
    refine (List.perm_ext_iff_of_nodup (hnodup h) (hnodup ho)).2 fun k => ?_
    rw [h.complete, ho.complete]
  refine hperm.eq_of_pairwise ?_ h.ascending ho.ascending
  intro k l _ _ hkl hlk
  exact absurd (List.lt_trans hkl hlk) (List.lt_irrefl _)

end Assoc

/-! ## Operations -/

/-- What is stored under a key. -/
structure Entry where
  bins : SortedMap String Value
  expiration : Option Int64
  generation : UInt32

namespace Entry

def ofRecord (r : Record) : Entry :=
  ⟨r.bins, r.expiration, r.generation⟩

/-- The record that an entry is under a key. -/
def record (e : Entry) (key : String) : Record :=
  ⟨key, e.bins, e.generation, e.expiration⟩

/-- The generation of what is stored over an entry, or where there was none. -/
def generationOver : Option Entry → UInt32
  | none => 1
  | some e => UInt32.ofNat (min (e.generation.toNat + 1) (2 ^ 32 - 1))

end Entry

/-- The records of a map, in the order in which their keys are given. -/
def Assoc.records (m : Assoc Entry) (keys : List String) : List Record :=
  keys.filterMap fun key => (m key).map (·.record key)

/-- No bin has a name with a NUL in it. -/
def Record.Encodable (r : Record) : Prop :=
  ∀ name, r.bins.contains name = true → '\x00' ∉ name.toList

theorem Collection.encodable_iff (r : Record) : Collection.encodable r = true ↔ r.Encodable := by
  simp [encodable, Record.Encodable, SortedMap.mem_keys_iff]

instance (r : Record) : Decidable r.Encodable :=
  decidable_of_iff _ (Collection.encodable_iff r)

/-- The collections of a store as maps from keys. -/
abbrev PlainStore : Type :=
  Assoc (Assoc Entry)

namespace PlainStore

variable (p : PlainStore)

def collection (name : String) : Except StoreError (Assoc Entry) :=
  match p name with
  | some m => .ok m
  | none => .error (.collectionNotFound name)

def createCollection (name : String) : PlainStore :=
  if (p name).isSome then p else p.set name (some .empty)

def put (name : String) (r : Record) : Except StoreError (PlainStore × UInt32) := do
  let m ← p.collection name
  if r.Encodable then
    let stored : Entry := ⟨r.bins, r.expiration, Entry.generationOver (m r.key)⟩
    return (p.set name (some (m.set r.key (some stored))), stored.generation)
  else throw (.encoding r.key)

def delete (name key : String) : Except StoreError (PlainStore × Bool) := do
  let m ← p.collection name
  return (p.set name (some (m.set key none)), (m key).isSome)

def get (name key : String) : Except StoreError (Option Record) := do
  let m ← p.collection name
  return (m key).map (·.record key)

/-- The plain store after a change. Indexes are no part of it. -/
def update : Update → PlainStore
  | .createCollection name => p.createCollection name
  | .put name r => ((p.put name r).toOption.map Prod.fst).getD p
  | .delete name key => ((p.delete name key).toOption.map Prod.fst).getD p
  | .createIndex .. | .dropIndex .. => p

/-- The plain store after several changes. -/
def updates (p : PlainStore) (us : List Update) : PlainStore :=
  us.foldl update p

theorem updates_append (us vs : List Update) :
    p.updates (us ++ vs) = (p.updates us).updates vs :=
  List.foldl_append

end PlainStore

/-! ## Collections -/

namespace Collection

variable (c : Collection)

/-- What is stored under the keys of a collection. -/
def plain : Assoc Entry :=
  fun key => (c.records.get? key).map .ofRecord

theorem toNat_nextGeneration (g : UInt32) :
    (nextGeneration g).toNat = min (g.toNat + 1) (2 ^ 32 - 1) := by
  have hg := g.toNat_lt
  unfold nextGeneration
  split
  · rw [UInt32.toNat_add]
    simp
    omega
  · omega

theorem stamp_eq (previous : Option Record) (r : Record) :
    Entry.ofRecord (stamp previous r) =
      ⟨r.bins, r.expiration, Entry.generationOver (previous.map .ofRecord)⟩ := by
  cases previous with
  | none => rfl
  | some q =>
    have hnext : nextGeneration q.generation =
        UInt32.ofNat (min (q.generation.toNat + 1) (2 ^ 32 - 1)) := by
      rw [← toNat_nextGeneration, UInt32.ofNat_toNat]
    simp [Entry.ofRecord, stamp, Entry.generationOver, hnext]

theorem plain_put (r : Record) :
    (c.put r).1.plain =
      c.plain.set r.key (some ⟨r.bins, r.expiration, Entry.generationOver (c.plain r.key)⟩) := by
  funext key
  simp only [plain, Assoc.set, records_put, SortedMap.get?_insert]
  split
  · simp [stamp_eq]
  · rfl

theorem plain_delete? (key : String) :
    ((c.delete? key).getD c).plain = c.plain.set key none ∧
      (c.delete? key).isSome = (c.plain key).isSome := by
  unfold delete?
  cases hkey : c.records.get? key with
  | none =>
    refine ⟨?_, by simp [plain, hkey]⟩
    funext l
    by_cases hl : l = key
    · simp [plain, Assoc.set, hl, hkey]
    · simp [Assoc.set, hl]
  | some previous =>
    refine ⟨?_, by simp [plain, hkey]⟩
    funext l
    simp only [plain, Assoc.set, Option.map_some, Option.getD_some, SortedMap.get?_erase]
    split <;> rfl

/-- The keys of the records are listed in the order of their bytes. -/
theorem listing_keys : c.plain.Listing c.records.keys where
  ascending := c.records.keys_ascending.imp Text.bytes_lt
  complete key := by simp [plain, SortedMap.mem_keys_iff, SortedMap.contains]

variable {c}

theorem Consistent.record_plain (h : c.Consistent) (key : String) :
    (c.plain key).map (·.record key) = c.records.get? key := by
  unfold plain
  cases hkey : c.records.get? key with
  | none => rfl
  | some r =>
    obtain rfl := h.keyed key r hkey
    rfl

theorem Consistent.records_plain (h : c.Consistent) :
    c.plain.records c.records.keys = c.records.values := by
  simp only [Assoc.records, h.record_plain, SortedMap.filterMap_get?_keys]

end Collection

/-! ## Stores -/

namespace Store

variable (s : Store)

/-- The store without its indexes. -/
def plain : PlainStore :=
  fun name => (s.collections.get? name).map Collection.plain

theorem plain_set (name : String) (c : Collection) :
    (s.set name c).plain = s.plain.set name (some c.plain) := by
  funext n
  simp only [plain, set, Assoc.set, SortedMap.get?_insert]
  split <;> rfl

theorem plain_collection (name : String) :
    s.plain.collection name = (s.collection name).map Collection.plain := by
  simp only [PlainStore.collection, collection, plain]
  cases s.collections.get? name <;> rfl

/-- A collection that takes the place of one with the same records changes nothing. -/
theorem plain_set_of_eq {name : String} {c d : Collection} (hc : s.collections.get? name = some c)
    (h : d.plain = c.plain) : (s.set name d).plain = s.plain := by
  rw [plain_set]
  funext n
  by_cases hn : n = name
  · simp [Assoc.set, plain, hn, hc, h]
  · simp [Assoc.set, hn]

theorem plain_createCollection (name : String) :
    (s.createCollection name).plain = s.plain.createCollection name := by
  unfold createCollection PlainStore.createCollection SortedMap.contains
  simp only [plain, Option.isSome_map]
  split
  · rfl
  · exact plain_set s name {}

theorem plain_put (name : String) (r : Record) :
    (s.put name r).map (fun t => (t.1.plain, t.2)) = s.plain.put name r := by
  unfold put PlainStore.put
  rw [plain_collection]
  cases s.collection name with
  | error e => rfl
  | ok c =>
    by_cases hr : r.Encodable
    · have hstored : (c.put r).2.generation = Entry.generationOver (c.plain r.key) :=
        congrArg Entry.generation (Collection.stamp_eq _ r)
      simp [Except.map, bind, Except.bind, pure, Except.pure, Collection.encodable_iff, hr,
        plain_set, Collection.plain_put, hstored]
    · simp [Except.map, bind, Except.bind, throw, throwThe, MonadExceptOf.throw,
        Collection.encodable_iff, hr]

theorem plain_delete (name key : String) :
    (s.delete name key).map (fun t => (t.1.plain, t.2)) = s.plain.delete name key := by
  unfold delete PlainStore.delete
  rw [plain_collection]
  cases hc : s.collection name with
  | error e => rfl
  | ok c =>
    obtain ⟨hrest, hfound⟩ := c.plain_delete? key
    cases hd : c.delete? key with
    | some d =>
      rw [hd] at hrest hfound
      simp [Except.map, bind, Except.bind, pure, Except.pure, hd, plain_set, ← hrest, ← hfound]
    | none =>
      rw [hd] at hrest hfound
      -- the plain store writes the collection back as it was
      have hsame := plain_set_of_eq s (collection_eq_ok_iff.1 hc) (d := c) rfl
      rw [plain_set] at hsame
      simp [Except.map, bind, Except.bind, pure, Except.pure, hd, ← hrest, ← hfound, hsame]

theorem Consistent.plain_get {s : Store} (h : s.Consistent) (name key : String) :
    s.get name key = s.plain.get name key := by
  unfold get PlainStore.get
  rw [plain_collection]
  cases hc : s.collection name with
  | error e => rfl
  | ok c =>
    have hrecord := (h name c (collection_eq_ok_iff.1 hc)).record_plain key
    simp [Except.map, bind, Except.bind, pure, Except.pure, hrecord]

theorem size_eq (name : String) :
    s.size name = (s.collection name).map fun c => c.records.values.length := by
  unfold size
  cases s.collection name with
  | error e => rfl
  | ok c => exact congrArg Except.ok (List.length_map _).symm

theorem isEmpty_eq (name : String) :
    s.isEmpty name = (s.collection name).map fun c => c.records.values.isEmpty := by
  unfold isEmpty
  rw [size_eq]
  cases s.collection name with
  | error e => rfl
  | ok c =>
    have hempty (rs : List Record) : (rs.length == 0) = rs.isEmpty := by cases rs <;> rfl
    exact congrArg Except.ok (hempty c.records.values)

/-- A scan that is read to its end gives the records. -/
theorem records_scan (name : String) :
    (s.scan name >>= fun source => source.records) =
      (s.collection name).map fun c => c.records.values := by
  have hlist (rs : List Record) : (Stream.ofList (rs.map .ok) true).records = .ok rs := by
    rw [Stream.records, Stream.items_ofList]
    induction rs with
    | nil => rfl
    | cons r rs ih =>
      rw [List.map_cons, List.mapM_cons, ih]
      rfl
  unfold scan
  cases s.collection name with
  | error e => rfl
  | ok c => exact hlist c.records.values

theorem plain_createIndex {name index field : String} {type : IndexType} {t : Store}
    (ht : s.createIndex name index field type = .ok t) : t.plain = s.plain := by
  obtain ⟨c, hc, hcreate⟩ := exists_collection_of_bind_eq_ok ht
  split at hcreate
  · contradiction
  · obtain rfl := Except.ok.inj hcreate
    exact plain_set_of_eq s hc rfl

theorem plain_dropIndex {name index : String} {t : Store × Bool}
    (ht : s.dropIndex name index = .ok t) : t.1.plain = s.plain := by
  obtain ⟨c, hc, hdrop⟩ := exists_collection_of_bind_eq_ok ht
  split at hdrop
  · next d hd =>
    obtain rfl := Except.ok.inj hdrop
    have hrecords : d.records = c.records := by
      unfold Collection.dropIndex? at hd
      split at hd
      · rw [← Option.some.inj hd]
      · contradiction
    refine plain_set_of_eq s hc ?_
    unfold Collection.plain
    rw [hrecords]
  · rw [← Except.ok.inj hdrop]

/-- A change of a store and of the plain store leaves them in step. -/
theorem plain_update (u : Update) : (s.update u).plain = s.plain.update u := by
  have hchange {α : Type} (result : Except StoreError (Store × α)) :
      ((result.toOption.map Prod.fst).getD s).plain =
        ((result.map fun t => (t.1.plain, t.2)).toOption.map Prod.fst).getD s.plain := by
    cases result <;> rfl
  cases u with
  | createCollection name => exact plain_createCollection s name
  | put name r => rw [update, PlainStore.update, hchange, plain_put]
  | delete name key => rw [update, PlainStore.update, hchange, plain_delete]
  | createIndex name index field type =>
    exact getD_of_toOption (P := fun t => t.plain = s.plain) rfl fun _ => plain_createIndex s
  | dropIndex name index =>
    exact getD_of_toOption_fst (P := fun t => t.plain = s.plain) rfl fun _ => plain_dropIndex s

theorem plain_updates (us : List Update) : (s.updates us).plain = s.plain.updates us := by
  induction us generalizing s with
  | nil => rfl
  | cons u us ih => exact (ih (s.update u)).trans (by rw [plain_update]; rfl)

end Store

end Quarry

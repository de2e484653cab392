-- SUMMARY: Collections of records with their indexes, and the operations on them.
import Quarry.Index.Secondary
import Quarry.Store.Feed

/-!
# Stores

A store holds named collections, each with its records and its indexes. Every operation gives the
store after it, or an error and no store. Indexes are brought up to date with every write.

A stream is what was in the collection when it was opened. Reading from a store that changes in the
meantime does not change the stream.
-/

namespace Quarry

structure Collection where
  records : SortedMap String Record := .empty
  indexes : SortedMap String SecondaryIndex := .empty

structure Store where
  collections : SortedMap String Collection := .empty

namespace Collection

/-! ## Records -/

/-- Whether a record can be encoded for storage. Names in encoded records end at a NUL, so no bin
    name may hold one. -/
def encodable (r : Record) : Bool :=
  r.bins.keys.all fun name => !name.toList.contains '\x00'

/-- The generation after a given one. It stays at the largest. -/
def nextGeneration (g : UInt32) : UInt32 :=
  if g.toNat + 1 < 2 ^ 32 then g + 1 else g

/-- The record as it is stored in place of a previous one. The first write has generation 1, and
    each later one counts up, whatever generation the record came with. -/
def stamp (previous : Option Record) (r : Record) : Record :=
  { r with generation := (previous.map fun p => nextGeneration p.generation).getD 1 }

/-- The collection with a record put in, and the record as it is stored. -/
def put (c : Collection) (r : Record) : Collection × Record :=
  let previous := c.records.get? r.key
  let stored := stamp previous r
  let reindex (ix : SecondaryIndex) : SecondaryIndex :=
    ((previous.map ix.remove).getD ix).insert stored
  (⟨c.records.insert r.key stored, c.indexes.mapValues reindex⟩, stored)

/-- The collection without a record, if there is one of that key. -/
def delete? (c : Collection) (key : String) : Option Collection :=
  (c.records.get? key).map fun previous =>
    ⟨c.records.erase key, c.indexes.mapValues (·.remove previous)⟩

/-! ## Indexes -/

/-- The collection with an index over its present records. -/
def addIndex (c : Collection) (d : IndexDescriptor) : Collection :=
  { c with indexes := c.indexes.insert d.name (.ofRecords d c.records.values) }

/-- The collection without an index, if there is one of that name. -/
def dropIndex? (c : Collection) (name : String) : Option Collection :=
  if c.indexes.contains name then some { c with indexes := c.indexes.erase name } else none

/-- The first index, by name, that covers a field. -/
def indexOn? (c : Collection) (field : String) : Option SecondaryIndex :=
  c.indexes.values.find? (·.descriptor.field == field)

end Collection

namespace Store

def empty : Store := {}

def collection (s : Store) (name : String) : Except StoreError Collection :=
  match s.collections.get? name with
  | some c => .ok c
  | none => .error (.collectionNotFound name)

/-- The store with a collection changed. -/
def set (s : Store) (name : String) (c : Collection) : Store :=
  ⟨s.collections.insert name c⟩

/-! ## Collections -/

/-- The store with a collection of the given name. One that is there stays as it is. -/
def createCollection (s : Store) (name : String) : Store :=
  if s.collections.contains name then s else s.set name {}

/-! ## Records -/

/-- Stores a record and gives its generation. -/
def put (s : Store) (name : String) (r : Record) : Except StoreError (Store × UInt32) := do
  let c ← s.collection name
  if Collection.encodable r then
    let (c, stored) := c.put r
    return (s.set name c, stored.generation)
  else throw (.encoding r.key)

/-- Removes a record and tells whether there was one. -/
def delete (s : Store) (name key : String) : Except StoreError (Store × Bool) := do
  let c ← s.collection name
  match c.delete? key with
  | some c => return (s.set name c, true)
  | none => return (s, false)

def get (s : Store) (name key : String) : Except StoreError (Option Record) := do
  return (← s.collection name).records.get? key

/-- The number of records in a collection. -/
def size (s : Store) (name : String) : Except StoreError Nat := do
  return (← s.collection name).records.size

def isEmpty (s : Store) (name : String) : Except StoreError Bool := do
  return (← s.size name) == 0

/-! ## Indexes -/

/-- Adds an index over the present and future records of a collection. -/
def createIndex (s : Store) (name index field : String) (type : IndexType) :
    Except StoreError Store := do
  let c ← s.collection name
  if c.indexes.contains index then throw (.indexExists index)
  else return s.set name (c.addIndex ⟨name, index, field, type⟩)

/-- Removes an index and tells whether there was one. -/
def dropIndex (s : Store) (name index : String) : Except StoreError (Store × Bool) := do
  let c ← s.collection name
  match c.dropIndex? index with
  | some c => return (s.set name c, true)
  | none => return (s, false)

/-- The indexes of a store as a catalog: the first one, by name, on the field. -/
def catalog (s : Store) : Catalog := fun name field => do
  let c ← s.collections.get? name
  return (← c.indexOn? field).descriptor

/-! ## Streams -/

/-- The records of a collection in ascending order of their keys. -/
def scan (s : Store) (name : String) : Except StoreError Stream := do
  let c ← s.collection name
  return .ofList (c.records.values.map .ok) true

/-- The records that satisfy a query to the first index on its field, in index order. -/
def query (s : Store) (test : GeometryTest) (name : String) (q : IndexQuery) :
    Except StoreError Stream := do
  let c ← s.collection name
  match c.indexOn? q.field with
  | none => throw (.indexNotFound name q.field)
  | some ix =>
    let keys ← ix.lookup test q
    return .ofList ((keys.filterMap c.records.get?).map .ok) true

/-- The store as it is read, with a test of geometries for its indexes of points. -/
def reader (test : GeometryTest) (s : Store) : Reader := ⟨s.scan, s.query test⟩

end Store

end Quarry

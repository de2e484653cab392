-- SUMMARY: A secondary index: keeping it in step with records, and looking records up.
import Quarry.Geometry.Basic
import Quarry.Index.Key
import Quarry.Record.Basic
import Quarry.Store.Error

/-!
# Secondary indexes

An index of numbers or strings takes every index key that occurs to the set of the keys of the
records that hold it; an index of points maps the keys of records to the points they hold. Records
without a value of the index's type at its field are not in the index.
-/

namespace Quarry

/-- Index keys, each with the keys of the records that hold it. -/
abbrev Postings := SortedMap IndexKey (SortedSet String)

namespace Postings

/-- The postings with a record under an index key. -/
def add (ps : Postings) (k : IndexKey) (record : String) : Postings :=
  ps.insert k (((ps.get? k).getD .empty).insert record ())

/-- The postings without a record under an index key. A key with no records left goes with it. -/
def remove (ps : Postings) (k : IndexKey) (record : String) : Postings :=
  match ps.get? k with
  | some records =>
    let rest := records.erase record
    if rest.entries.isEmpty then ps.erase k else ps.insert k rest
  | none => ps

/-- The records under the index keys in a range that can be searched. -/
def within (ps : Postings) (range : KeyRange) (_ : range.Searchable) : List String :=
  (ps.entries.filter fun e => range.contains e.1).flatMap fun e => e.2.keys

end Postings

inductive IndexContent where
  | postings (ps : Postings)
  | points (map : SortedMap String Position)

structure SecondaryIndex where
  descriptor : IndexDescriptor
  content : IndexContent

namespace SecondaryIndex

/-- The index without records. -/
def empty (d : IndexDescriptor) : SecondaryIndex :=
  ⟨d, match d.type with
    | .numeric | .string => .postings .empty
    | .geo2dSphere => .points .empty⟩

/-! ## Records -/

/-- The index with a record in it. -/
def insert (ix : SecondaryIndex) (r : Record) : SecondaryIndex :=
  match r.atPath? ix.descriptor.field with
  | none => ix
  | some v =>
    match ix.content with
    | .postings ps =>
      match IndexKey.ofValue? ix.descriptor.type v with
      | some k => { ix with content := .postings (ps.add k r.key) }
      | none => ix
    | .points map =>
      match v with
      | .geo (.point p) => { ix with content := .points (map.insert r.key p) }
      | _ => ix

/-- The index without a record that is in it. -/
def remove (ix : SecondaryIndex) (r : Record) : SecondaryIndex :=
  match r.atPath? ix.descriptor.field with
  | none => ix
  | some v =>
    match ix.content with
    | .postings ps =>
      match IndexKey.ofValue? ix.descriptor.type v with
      | some k => { ix with content := .postings (ps.remove k r.key) }
      | none => ix
    | .points map => { ix with content := .points (map.erase r.key) }

/-- The index of the given records. -/
def ofRecords (d : IndexDescriptor) (rs : List Record) : SecondaryIndex :=
  rs.foldl insert (empty d)

/-! ## Queries -/

/-- The keys that satisfy a query to an index of the given type. -/
def range (type : IndexType) (q : IndexQuery) : Except QueryFault KeyRange :=
  match IndexKey.ofValue? type q.bound1 with
  | none => .error .operandType
  | some k =>
    match q.operator with
    | .eq => .ok ⟨.included k, .included k⟩
    | .lt => .ok ⟨.unbounded, .excluded k⟩
    | .ltEq => .ok ⟨.unbounded, .included k⟩
    | .gt => .ok ⟨.excluded k, .unbounded⟩
    | .gtEq => .ok ⟨.included k, .unbounded⟩
    | .between =>
      match q.bound2.bind (IndexKey.ofValue? type) with
      | some u => .ok ⟨.included k, .excluded u⟩
      | none => .error .upperBound
    | _ => .error .operator

/-- The region of a query to an index of points. -/
def region (q : IndexQuery) : Except QueryFault Geometry :=
  match q.operator, q.bound1 with
  | .geoWithin, .geo g => .ok g
  | _, _ => .error .notRegion

/-- The keys of the records whose points are in a region. -/
def pointsWithin (test : GeometryTest) (map : SortedMap String Position) (g : Geometry) :
    List String :=
  (map.entries.filter fun e => test (.point e.2) g == some true).map (·.1)

/-- The keys of the records that satisfy a query, in ascending order of index key and record, or of
    record alone in an index of points. -/
def lookup (ix : SecondaryIndex) (test : GeometryTest) (q : IndexQuery) :
    Except StoreError (List String) :=
  let unsupported (fault : QueryFault) : StoreError :=
    .unsupportedQuery q.field q.operator fault ix.descriptor.type
  match ix.content with
  | .postings ps =>
    match range ix.descriptor.type q with
    | .ok r =>
      if h : r.isEmpty = true then .ok []
      else .ok (ps.within r (KeyRange.searchable_of_not_isEmpty h))
    | .error fault => .error (unsupported fault)
  | .points map =>
    match region q with
    | .ok g => .ok (pointsWithin test map g)
    | .error fault => .error (unsupported fault)

end SecondaryIndex

end Quarry

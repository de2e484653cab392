-- SUMMARY: Records as storage gives them, one by one and only when asked for.
import Quarry.Index.Basic
import Quarry.Record.Basic
import Quarry.Store.Error

/-!
# Feeds

A feed gives records one by one, any of them perhaps an error. What comes after an item is not made
before it is asked for, so reading the start of a long feed is cheap. Otherwise a feed is the list of
its items.
-/

namespace Quarry

inductive Feed where
  | nil
  | cons (item : Except StoreError Record) (rest : Unit → Feed)

namespace Feed

/-! ## Feeds and lists -/

def ofList : List (Except StoreError Record) → Feed
  | [] => .nil
  | item :: items => .cons item fun _ => ofList items

/-- The items of the feed in the order in which they come. -/
def toList : Feed → List (Except StoreError Record)
  | .nil => []
  | .cons item rest => item :: (rest ()).toList

@[simp] theorem toList_ofList (items : List (Except StoreError Record)) :
    (ofList items).toList = items := by
  induction items with
  | nil => rfl
  | cons item items ih => simp only [ofList, toList, ih]

end Feed

/-! ## Streams and readers -/

/-- What is left of a reading that was begun, none of it asked for. -/
structure Stream where
  feed : Unit → Feed
  /-- Whether the store counts the stream among its open cursors until it is released. -/
  counted : Bool

namespace Stream

/-- The stream of some items. -/
def ofList (items : List (Except StoreError Record)) (counted : Bool) : Stream :=
  ⟨fun _ => .ofList items, counted⟩

/-- The items of the stream in the order in which they come. -/
def items (s : Stream) : List (Except StoreError Record) :=
  (s.feed ()).toList

@[simp] theorem items_ofList (items : List (Except StoreError Record)) (counted : Bool) :
    (ofList items counted).items = items :=
  Feed.toList_ofList items

/-- The records of the stream, or its first error. -/
def records (s : Stream) : Except StoreError (List Record) :=
  s.items.mapM id

end Stream

/-- The two ways in which records are read. -/
structure Reader where
  /-- All records of a collection. -/
  scan : (collection : String) → Except StoreError Stream
  /-- The records that satisfy a query to an index of a collection. -/
  query : (collection : String) → IndexQuery → Except StoreError Stream

/-- What storage is asked for to open a stream. -/
inductive Opening where
  | scan (collection : String)
  | query (collection : String) (q : IndexQuery)

/-- What a reader gives for an opening. -/
def Reader.answer (rd : Reader) : Opening → Except StoreError Stream
  | .scan collection => rd.scan collection
  | .query collection q => rd.query collection q

end Quarry

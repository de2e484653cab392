-- SUMMARY: Sequences of commands to one store and one engine, with named streams and cursors.
import Quarry.Scan.Engine

/-!
# Sessions

A session is a store, an engine that reads from it, and the streams and cursors that are open. Every
command gives the session after it and an answer; a command that fails changes nothing.

The session counts the storage cursors that are open. Opening a stream adds one, and one is taken off
when a stream is released: by dropping it, or when the cursor that reads it ends or is dropped.
-/

namespace Quarry

structure Session where
  store : Store
  /-- How the store tells which points are in a region. -/
  geometryTest : GeometryTest
  config : Config
  evaluator : Evaluator
  /-- What the engine reads from, given the store. -/
  readerOf : Store → Reader
  streams : SortedMap String Stream
  cursors : SortedMap String Cursor
  openCursors : Nat

inductive Command where
  | createCollection (collection : String)
  | put (collection : String) (record : Record)
  | putMany (collection : String) (records : List Record)
  | delete (collection key : String)
  | get (collection key : String)
  | size (collection : String)
  | isEmpty (collection : String)
  | createIndex (collection name field : String) (type : IndexType)
  | dropIndex (collection name : String)
  | indexOn (collection field : String)
  | scan (collection : String)
  | query (collection : String) (q : IndexQuery)
  | openStream (id collection : String) (q : Option IndexQuery)
  | nextOfStream (id : String)
  | dropStream (id : String)
  | selectAll (q : Request)
  | count (q : Request)
  | openCursor (id : String) (q : Request)
  | nextOfCursor (id : String)
  | cancelCursor (id : String)
  | dropCursor (id : String)
  | setScansEnabled (enabled : Bool)
  | setMaxRecords (n : UInt64)
  | setConfig (c : Config)
  | config

inductive Answer where
  | done
  | generation (g : UInt32)
  | generations (gs : List (Except StoreError UInt32))
  | flag (b : Bool)
  | number (n : Nat)
  | record (r : Option Record)
  | records (rs : List Record)
  | index (d : Option IndexDescriptor)
  | item (i : Option (Except StoreError Record))
  | opened (c : Cursor)
  | step (c : Cursor) (i : Option Cursor.Item)
  | cancelled (c : Cursor)
  | config (c : Config)
  | storeError (e : StoreError)
  | scanError (e : ScanError)
  | noSuchStream
  | noSuchCursor

namespace Session

/-- A session with an empty store. -/
def start (geometryTest : GeometryTest) (config : Config) (evaluator : Evaluator)
    (readerOf : Store → Reader) : Session :=
  ⟨.empty, geometryTest, config, evaluator, readerOf, .empty, .empty, 0⟩

def engine (s : Session) : Engine :=
  ⟨s.readerOf s.store, s.store.catalog, s.config, s.evaluator⟩

/-! ## Open cursors -/

/-- A stream was handed out. -/
def acquire (s : Session) (source : Stream) : Session :=
  if source.counted then { s with openCursors := s.openCursors + 1 } else s

/-- A stream, if there was one, was given up. -/
def release (s : Session) (source : Option Stream) : Session :=
  if source.any (·.counted) then { s with openCursors := s.openCursors - 1 } else s

/-! ## Outcomes -/

/-- What an operation that changes the store leads to. -/
def change {α : Type} (s : Session) (answer : α → Answer) :
    Except StoreError (Store × α) → Session × Answer
  | .ok (store, a) => ({ s with store }, answer a)
  | .error e => (s, .storeError e)

/-- What an operation that reads the store leads to. -/
def reply {α : Type} (s : Session) (answer : α → Answer) : Except StoreError α → Session × Answer
  | .ok a => (s, answer a)
  | .error e => (s, .storeError e)

/-- What a scan leads to. -/
def report {α : Type} (s : Session) (answer : α → Answer) : Except ScanError α → Session × Answer
  | .ok a => (s, answer a)
  | .error e => (s, .scanError e)

/-! ## Commands -/

/-- Stores records one after the other, each whatever became of those before it. -/
def putMany (s : Session) (collection : String) :
    List Record → Session × List (Except StoreError UInt32)
  | [] => (s, [])
  | r :: rest =>
    match s.store.put collection r with
    | .ok (store, g) =>
      let (s, gs) := putMany { s with store } collection rest
      (s, .ok g :: gs)
    | .error e =>
      let (s, gs) := putMany s collection rest
      (s, .error e :: gs)

/-- Opens a stream under a name, and then gives up the one that had the name. -/
def openStream (s : Session) (id collection : String) (q : Option IndexQuery) : Session × Answer :=
  let opened := match q with
    | some q => s.store.query s.geometryTest collection q
    | none => s.store.scan collection
  match opened with
  | .error e => (s, .storeError e)
  | .ok source =>
    let former := s.streams.get? id
    let s := { s.acquire source with streams := s.streams.insert id source }
    (s.release former, .done)

/-- Takes the next item of a stream. A stream at its end stays open. -/
def nextOfStream (s : Session) (id : String) : Session × Answer :=
  match s.streams.get? id with
  | none => (s, .noSuchStream)
  | some source =>
    match source.feed () with
    | .nil => (s, .item none)
    | .cons i rest =>
      ({ s with streams := s.streams.insert id ⟨rest, source.counted⟩ }, .item (some i))

def dropStream (s : Session) (id : String) : Session × Answer :=
  match s.streams.get? id with
  | none => (s, .flag false)
  | some source => ({ s.release (some source) with streams := s.streams.erase id }, .flag true)

/-- Starts a scan under a name, and then drops the cursor that had the name. -/
def openCursor (s : Session) (id : String) (q : Request) : Session × Answer :=
  match s.engine.select q with
  | .error e => (s, .scanError e)
  | .ok c =>
    let former := (s.cursors.get? id).bind (·.source)
    let acquired := match c.source with
      | some source => s.acquire source
      | none => s
    let s := { acquired with cursors := s.cursors.insert id c }
    (s.release former, .opened c)

/-- Lets a cursor make a step. Its stream is given up if it came to its end. -/
def nextOfCursor (s : Session) (id : String) : Session × Answer :=
  match s.cursors.get? id with
  | none => (s, .noSuchCursor)
  | some c =>
    let (c', i) := c.next
    let s := { s with cursors := s.cursors.insert id c' }
    (if c'.source.isNone then s.release c.source else s, .step c' i)

def cancelCursor (s : Session) (id : String) : Session × Answer :=
  match s.cursors.get? id with
  | none => (s, .noSuchCursor)
  | some c => ({ s with cursors := s.cursors.insert id c.cancel }, .cancelled c.cancel)

def dropCursor (s : Session) (id : String) : Session × Answer :=
  match s.cursors.get? id with
  | none => (s, .flag false)
  | some c => ({ s.release c.source with cursors := s.cursors.erase id }, .flag true)

/-- Changes the policy of scans that start from now on. -/
def setConfig (s : Session) (c : Config) : Session × Answer :=
  ({ s with config := c }, .config c)

/-- The session after a command, and the answer to it. -/
def step (s : Session) : Command → Session × Answer
  | .createCollection c => ({ s with store := s.store.createCollection c }, .done)
  | .put c r => s.change .generation (s.store.put c r)
  | .putMany c rs => let (s, gs) := s.putMany c rs; (s, .generations gs)
  | .delete c key => s.change .flag (s.store.delete c key)
  | .get c key => s.reply .record (s.store.get c key)
  | .size c => s.reply .number (s.store.size c)
  | .isEmpty c => s.reply .flag (s.store.isEmpty c)
  | .createIndex c name field type =>
    s.change (fun _ => .done) ((s.store.createIndex c name field type).map (·, ()))
  | .dropIndex c name => s.change .flag (s.store.dropIndex c name)
  | .indexOn c field => (s, .index (s.store.catalog c field))
  | .scan c => s.reply .records (do (← s.store.scan c).records)
  | .query c q => s.reply .records (do (← s.store.query s.geometryTest c q).records)
  | .openStream id c q => s.openStream id c q
  | .nextOfStream id => s.nextOfStream id
  | .dropStream id => s.dropStream id
  | .selectAll q => s.report .records (s.engine.selectAll q)
  | .count q => s.report .number (s.engine.count q)
  | .openCursor id q => s.openCursor id q
  | .nextOfCursor id => s.nextOfCursor id
  | .cancelCursor id => s.cancelCursor id
  | .dropCursor id => s.dropCursor id
  | .setScansEnabled enabled => s.setConfig { s.config with scansEnabled := enabled }
  | .setMaxRecords n => s.setConfig { s.config with maxRecords := n }
  | .setConfig c => s.setConfig c
  | .config => (s, .config s.config)

end Session

end Quarry

-- SUMMARY: Runs of a session, and what one command does to each part of it.
import Quarry.Proofs.Store.Reachable
import Quarry.Session

/-!
# Runs of a session

A run is a sequence of commands. What a command does to the store is what some changes of the store
do; what it does to the cursors that are open is said by one equation, and so is what it does to the
streams. What holds of all runs is then shown command by command.
-/

namespace Quarry

/-! ## What a command does -/

/-- The changes to the store that a command makes. -/
def Command.updates : Command → List Update
  | .createCollection name => [.createCollection name]
  | .put name r => [.put name r]
  | .putMany name rs => rs.map (.put name)
  | .delete name key => [.delete name key]
  | .createIndex name index field type => [.createIndex name index field type]
  | .dropIndex name index => [.dropIndex name index]
  | _ => []

/-- The stream of a query, or of a whole collection. -/
def Store.openStream (s : Store) (test : GeometryTest) (name : String) :
    Option IndexQuery → Except StoreError Stream
  | some q => s.query test name q
  | none => s.scan name

/-- What a stream, if there is one, adds to the count of open cursors. -/
def Stream.load (source : Option Stream) : Nat :=
  (source.any (·.counted)).toNat

namespace Session

variable (s : Session)

def configAfter : Command → Config
  | .setScansEnabled enabled => { s.config with scansEnabled := enabled }
  | .setMaxRecords n => { s.config with maxRecords := n }
  | .setConfig c => c
  | _ => s.config

def streamsAfter : Command → SortedMap String Stream
  | .openStream id name q =>
    match s.store.openStream s.geometryTest name q with
    | .ok source => s.streams.insert id source
    | .error _ => s.streams
  | .nextOfStream id =>
    match s.streams.get? id with
    | some source =>
      match source.feed () with
      | .nil => s.streams
      | .cons _ rest => s.streams.insert id ⟨rest, source.counted⟩
    | none => s.streams
  | .dropStream id => s.streams.erase id
  | _ => s.streams

def cursorsAfter : Command → SortedMap String Cursor
  | .openCursor id q =>
    match s.engine.select q with
    | .ok c => s.cursors.insert id c
    | .error _ => s.cursors
  | .nextOfCursor id =>
    match s.cursors.get? id with
    | some c => s.cursors.insert id c.next.1
    | none => s.cursors
  | .cancelCursor id =>
    match s.cursors.get? id with
    | some c => s.cursors.insert id c.cancel
    | none => s.cursors
  | .dropCursor id => s.cursors.erase id
  | _ => s.cursors

/-- The stream that storage hands out for a command. -/
def handedOut : Command → Option Stream
  | .scan name => (s.store.scan name).toOption
  | .query name q => (s.store.query s.geometryTest name q).toOption
  | .openStream _ name q => (s.store.openStream s.geometryTest name q).toOption
  | .selectAll q | .count q | .openCursor _ q => (s.engine.select q).toOption.bind (·.source)
  | _ => none

/-- The stream that is released in the course of a command: one that was read to its end, replaced,
    dropped, or given up by a cursor that came to its end. -/
def released : Command → Option Stream
  | .scan name => (s.store.scan name).toOption
  | .query name q => (s.store.query s.geometryTest name q).toOption
  | .openStream id name q =>
    (s.store.openStream s.geometryTest name q).toOption.bind fun _ => s.streams.get? id
  | .dropStream id => s.streams.get? id
  | .selectAll q | .count q => (s.engine.select q).toOption.bind (·.source)
  | .openCursor id q =>
    (s.engine.select q).toOption.bind fun _ => (s.cursors.get? id).bind (·.source)
  | .nextOfCursor id =>
    (s.cursors.get? id).bind fun c => if c.next.1.source.isNone then c.source else none
  | .dropCursor id => (s.cursors.get? id).bind (·.source)
  | _ => none

/-- The session after several commands. -/
def run (s : Session) (cs : List Command) : Session :=
  cs.foldl (fun s c => (s.step c).1) s

/-- The answers to several commands. -/
def answers (s : Session) : List Command → List Answer
  | [] => []
  | c :: cs => (s.step c).2 :: (s.step c).1.answers cs

@[simp] theorem run_nil : s.run [] = s := rfl

@[simp] theorem run_cons (c : Command) (cs : List Command) :
    s.run (c :: cs) = (s.step c).1.run cs := rfl

/-! ## Outcomes -/

theorem acquire_eq (source : Stream) :
    s.acquire source = { s with openCursors := s.openCursors + Stream.load (some source) } := by
  unfold acquire
  cases h : source.counted <;> simp [Stream.load, h]

theorem release_eq (source : Option Stream) :
    s.release source = { s with openCursors := s.openCursors - Stream.load source } := by
  unfold release
  cases h : source.any (·.counted) <;> simp [Stream.load, h]

theorem fst_change {α : Type} (answer : α → Answer) (result : Except StoreError (Store × α)) :
    (s.change answer result).1 =
      { s with store := (result.toOption.map Prod.fst).getD s.store } := by
  cases result <;> rfl

theorem fst_reply {α : Type} (answer : α → Answer) (result : Except StoreError α) :
    (s.reply answer result).1 = s := by
  cases result <;> rfl

theorem fst_report {α : Type} (answer : α → Answer) (result : Except ScanError α) :
    (s.report answer result).1 = s := by
  cases result <;> rfl

section

variable {store : Store} {name : String} {r : Record}

theorem update_put_of_ok {t : Store × UInt32} (h : store.put name r = .ok t) :
    store.update (.put name r) = t.1 := by
  simp [Store.update, h, Except.toOption]

theorem update_put_of_error {e : StoreError} (h : store.put name r = .error e) :
    store.update (.put name r) = store := by
  simp [Store.update, h, Except.toOption]

end

/-- Storing records one after the other changes the store as storing each of them does. -/
theorem fst_putMany (name : String) (rs : List Record) :
    (s.putMany name rs).1 = { s with store := s.store.updates (rs.map (.put name)) } := by
  induction rs generalizing s with
  | nil => rfl
  | cons r rs ih =>
    unfold putMany
    cases hput : s.store.put name r with
    | ok result => simp [ih, Store.updates, update_put_of_ok hput]
    | error e => simp [ih, Store.updates, update_put_of_error hput]

/-! ## Streams and cursors -/

theorem fst_openStream (id name : String) (q : Option IndexQuery) :
    (s.openStream id name q).1 =
      { s with
        streams := s.streamsAfter (.openStream id name q)
        openCursors := s.openCursors + Stream.load (s.handedOut (.openStream id name q))
          - Stream.load (s.released (.openStream id name q)) } := by
  cases q with
  | none =>
    simp only [openStream, streamsAfter, handedOut, released, Store.openStream]
    cases s.store.scan name with
    | error e => rfl
    | ok source => simp [acquire_eq, release_eq, Except.toOption]
  | some q =>
    simp only [openStream, streamsAfter, handedOut, released, Store.openStream]
    cases s.store.query s.geometryTest name q with
    | error e => rfl
    | ok source => simp [acquire_eq, release_eq, Except.toOption]

theorem fst_nextOfStream (id : String) :
    (s.nextOfStream id).1 = { s with streams := s.streamsAfter (.nextOfStream id) } := by
  simp only [nextOfStream, streamsAfter]
  cases s.streams.get? id with
  | none => rfl
  | some source =>
    dsimp only
    cases source.feed () <;> rfl

theorem fst_dropStream (id : String) :
    (s.dropStream id).1 =
      { s with
        streams := s.streamsAfter (.dropStream id)
        openCursors := s.openCursors - Stream.load (s.released (.dropStream id)) } := by
  simp only [dropStream, streamsAfter, released]
  cases hid : s.streams.get? id with
  | none => rw [SortedMap.erase_of_get?_eq_none hid]; rfl
  | some source => simp [release_eq]

theorem fst_openCursor (id : String) (q : Request) :
    (s.openCursor id q).1 =
      { s with
        cursors := s.cursorsAfter (.openCursor id q)
        openCursors := s.openCursors + Stream.load (s.handedOut (.openCursor id q))
          - Stream.load (s.released (.openCursor id q)) } := by
  simp only [openCursor, cursorsAfter, handedOut, released]
  cases s.engine.select q with
  | error e => rfl
  | ok c =>
    cases hsource : c.source <;> simp [acquire_eq, release_eq, Except.toOption, hsource, Stream.load]

theorem fst_nextOfCursor (id : String) :
    (s.nextOfCursor id).1 =
      { s with
        cursors := s.cursorsAfter (.nextOfCursor id)
        openCursors := s.openCursors - Stream.load (s.released (.nextOfCursor id)) } := by
  simp only [nextOfCursor, cursorsAfter, released]
  cases s.cursors.get? id with
  | none => rfl
  | some c =>
    cases hsource : c.next.1.source <;> simp [release_eq, hsource, Stream.load]

theorem fst_cancelCursor (id : String) :
    (s.cancelCursor id).1 = { s with cursors := s.cursorsAfter (.cancelCursor id) } := by
  simp only [cancelCursor, cursorsAfter]
  cases s.cursors.get? id <;> rfl

theorem fst_dropCursor (id : String) :
    (s.dropCursor id).1 =
      { s with
        cursors := s.cursorsAfter (.dropCursor id)
        openCursors := s.openCursors - Stream.load (s.released (.dropCursor id)) } := by
  simp only [dropCursor, cursorsAfter, released]
  cases hid : s.cursors.get? id with
  | none => rw [SortedMap.erase_of_get?_eq_none hid]; rfl
  | some c => simp [release_eq]

/-! ## Steps -/

/-- What a command does to each part of the session. -/
theorem fst_step (c : Command) :
    (s.step c).1 =
      { s with
        store := s.store.updates c.updates
        config := s.configAfter c
        streams := s.streamsAfter c
        cursors := s.cursorsAfter c
        openCursors := s.openCursors + Stream.load (s.handedOut c) - Stream.load (s.released c) } := by
  -- a reading that is over with the command releases what it was handed
  have hover (source : Option Stream) :
      s = { s with openCursors := s.openCursors + Stream.load source - Stream.load source } := by
    rw [Nat.add_sub_cancel]
  cases c with
  | put name r => exact fst_change s _ _
  | putMany name rs => exact fst_putMany s name rs
  | delete name key => exact fst_change s _ _
  | createIndex name index field type =>
    refine (fst_change s _ _).trans ?_
    have hupdate : ((((s.store.createIndex name index field type).map (·, ())).toOption.map
        Prod.fst).getD s.store) = s.store.update (.createIndex name index field type) := by
      simp only [Store.update]
      cases s.store.createIndex name index field type <;> rfl
    rw [hupdate]
    rfl
  | dropIndex name index => exact fst_change s _ _
  | get name key => exact fst_reply s _ _
  | size name => exact fst_reply s _ _
  | isEmpty name => exact fst_reply s _ _
  | scan name => exact (fst_reply s _ _).trans (hover _)
  | query name q => exact (fst_reply s _ _).trans (hover _)
  | selectAll q => exact (fst_report s _ _).trans (hover _)
  | count q => exact (fst_report s _ _).trans (hover _)
  | openStream id name q => exact fst_openStream s id name q
  | nextOfStream id => exact fst_nextOfStream s id
  | dropStream id => exact fst_dropStream s id
  | openCursor id q => exact fst_openCursor s id q
  | nextOfCursor id => exact fst_nextOfCursor s id
  | cancelCursor id => exact fst_cancelCursor s id
  | dropCursor id => exact fst_dropCursor s id
  | _ => rfl

theorem store_step (c : Command) : (s.step c).1.store = s.store.updates c.updates :=
  congrArg store (fst_step s c)

theorem streams_step (c : Command) : (s.step c).1.streams = s.streamsAfter c :=
  congrArg streams (fst_step s c)

theorem cursors_step (c : Command) : (s.step c).1.cursors = s.cursorsAfter c :=
  congrArg cursors (fst_step s c)

theorem readerOf_step (c : Command) : (s.step c).1.readerOf = s.readerOf := by
  rw [fst_step]

theorem geometryTest_step (c : Command) : (s.step c).1.geometryTest = s.geometryTest := by
  rw [fst_step]

theorem openCursors_step (c : Command) :
    (s.step c).1.openCursors =
      s.openCursors + Stream.load (s.handedOut c) - Stream.load (s.released c) :=
  congrArg openCursors (fst_step s c)

end Session

end Quarry

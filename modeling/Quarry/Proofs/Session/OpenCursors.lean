-- SUMMARY: The open cursors of a store are the streams that were handed out and not yet released.
import Quarry.Proofs.Scan.Driving
import Quarry.Proofs.Session.Run

/-!
# Open cursors

A stream that storage handed out is held by the session under a name, or by one of its cursors, until
it is released. What one command hands out and releases is the change of what is held. So the count of
open cursors, which is all that the store knows, is the number of streams that are held, whatever was
done. A cursor holds a stream as long as it has not come to an end.
-/

namespace Quarry

@[simp] theorem Stream.load_none : Stream.load none = 0 := rfl

/-! ## Cursors -/

namespace Cursor

/-- A cursor has a stream, which is counted, until it comes to its end. -/
structure Holding (c : Cursor) : Prop where
  isSome_source : c.source.isSome = !c.state.isTerminal
  counted : ∀ t, c.source = some t → t.counted = true

variable {c : Cursor}

theorem Holding.any_counted (h : c.Holding) : c.source.any (·.counted) = c.source.isSome := by
  cases hsource : c.source with
  | none => rfl
  | some t => exact h.counted t hsource

/-- A step of a cursor at its end does nothing. Any other one comes to the end and gives the stream up,
    or leaves what is left of it. -/
theorem next_leaves (c : Cursor) :
    (c.state.isTerminal = true ∧ c.next.1 = c) ∨
      (c.next.1.source = none ∧ c.next.1.state.isTerminal = true) ∨
      ∃ t left, c.source = some t ∧ c.next.1.source = some left ∧ left.counted = t.counted ∧
        c.next.1.state.isTerminal = false := by
  have hmakes := c.makes_step
  unfold Cursor.next
  generalize c.step = u at hmakes ⊢
  cases hmakes with
  | ended terminal => exact .inl ⟨terminal, rfl⟩
  | full | cancelled | released => exact .inr (.inl ⟨rfl, rfl⟩)
  | @pulled t u running room wanted source pulls =>
    refine .inr ?_
    cases pulls with
    | exhausted | failed => exact .inl ⟨rfl, rfl⟩
    | @accepted passed r left rejected accepted counts found =>
      dsimp only
      rcases c.yielding_cases left with ⟨-, hend⟩ | ⟨-, hopen⟩
      · rw [hend]
        exact .inl ⟨rfl, rfl⟩
      · rw [hopen]
        exact .inr ⟨t, left, source, rfl, counts, rfl⟩

theorem Holding.next (h : c.Holding) : c.next.1.Holding := by
  rcases next_leaves c with
    ⟨_, hsame⟩ | ⟨hsource, hstate⟩ | ⟨t, left, ht, hsource, hcounted, hstate⟩
  · rw [hsame]
    exact h
  · exact ⟨by simp [hsource, hstate], by simp [hsource]⟩
  · exact ⟨by simp [hsource, hstate], by simp [hsource, hcounted, h.counted t ht]⟩

theorem Holding.cancel (h : c.Holding) : c.cancel.Holding :=
  ⟨h.isSome_source, h.counted⟩

/-- A step gives the stream up or keeps what is left of it. -/
theorem load_next (c : Cursor) :
    Stream.load c.next.1.source + Stream.load (if c.next.1.source.isNone then c.source else none) =
      Stream.load c.source := by
  rcases next_leaves c with ⟨_, hsame⟩ | ⟨hsource, _⟩ | ⟨t, left, ht, hsource, hcounted, _⟩
  · rw [hsame]
    cases c.source <;> simp
  · simp [hsource]
  · simp [hsource, ht, hcounted, Stream.load]

end Cursor

/-! ## Streams -/

namespace Store

variable {s : Store} {test : GeometryTest} {name : String} {t : Stream}

theorem counted_scan (h : s.scan name = .ok t) : t.counted = true := by
  obtain ⟨c, _, hc⟩ := exists_collection_of_bind_eq_ok h
  rw [← Except.ok.inj hc]
  rfl

theorem counted_query {q : IndexQuery} (h : s.query test name q = .ok t) : t.counted = true := by
  obtain ⟨c, _, hc⟩ := exists_collection_of_bind_eq_ok h
  split at hc
  · contradiction
  · next ix _ =>
    cases hkeys : ix.lookup test q with
    | error e =>
      rw [hkeys] at hc
      contradiction
    | ok keys =>
      rw [hkeys] at hc
      rw [← Except.ok.inj hc]
      rfl

theorem counted_openStream {q : Option IndexQuery} (h : s.openStream test name q = .ok t) :
    t.counted = true := by
  cases q with
  | none => exact counted_scan h
  | some q => exact counted_query h

end Store

namespace Session

variable {s : Session}

theorem holding_select (h : s.readerOf = Store.reader s.geometryTest) {q : Request} {c : Cursor}
    (hc : s.engine.select q = .ok c) : c.Holding := by
  obtain ⟨plan, source, _, hopen, rfl⟩ := Engine.select_eq_ok hc
  have hcounted : source.counted = true := by
    unfold Engine.openPlan engine at hopen
    rw [h] at hopen
    cases hpushed : plan.pushed with
    | some query =>
      rw [Plan.opening_of_pushed hpushed] at hopen
      exact Store.counted_query hopen
    | none =>
      rw [Plan.opening_of_unpushed hpushed] at hopen
      exact Store.counted_scan hopen
  refine ⟨?_, by simpa [Cursor.start] using hcounted⟩
  cases hscan : plan.isFullScan <;> simp [Cursor.start, hscan, ScanState.isTerminal]

/-! ## Accounts -/

def streamLoad (streams : SortedMap String Stream) : Nat :=
  streams.count (·.counted)

def cursorLoad (cursors : SortedMap String Cursor) : Nat :=
  cursors.count fun c => c.source.any (·.counted)

/-- How many of the streams that a session holds the store counts. -/
def load (s : Session) : Nat :=
  streamLoad s.streams + cursorLoad s.cursors

theorem streamLoad_insert (streams : SortedMap String Stream) (id : String) (t : Stream) :
    streamLoad (streams.insert id t) = Stream.load (some t) + streamLoad (streams.erase id) :=
  SortedMap.count_insert _ streams id t

theorem cursorLoad_insert (cursors : SortedMap String Cursor) (id : String) (c : Cursor) :
    cursorLoad (cursors.insert id c) = Stream.load c.source + cursorLoad (cursors.erase id) :=
  SortedMap.count_insert _ cursors id c

theorem streamLoad_erase (streams : SortedMap String Stream) (id : String) :
    Stream.load (streams.get? id) + streamLoad (streams.erase id) = streamLoad streams :=
  SortedMap.count_erase _ streams id

theorem cursorLoad_erase (cursors : SortedMap String Cursor) (id : String) :
    Stream.load ((cursors.get? id).bind (·.source)) + cursorLoad (cursors.erase id) =
      cursorLoad cursors := by
  unfold cursorLoad
  rw [← SortedMap.count_erase _ cursors id]
  cases cursors.get? id <;> rfl

/-- What a command hands out is held after it, and what it releases is not. -/
theorem load_step (s : Session) (c : Command) :
    (s.step c).1.load + Stream.load (s.released c) = s.load + Stream.load (s.handedOut c) := by
  unfold load
  rw [streams_step, cursors_step]
  -- a command that puts something under a name counts it and no longer what had the name
  cases c with
  | openStream id name q =>
    simp only [streamsAfter, cursorsAfter, released, handedOut]
    cases s.store.openStream s.geometryTest name q with
    | error e => rfl
    | ok t =>
      have herase := streamLoad_erase s.streams id
      simp only [Except.toOption, Option.bind_some, streamLoad_insert]
      omega
  | nextOfStream id =>
    have herase := streamLoad_erase s.streams id
    simp only [streamsAfter, cursorsAfter, released, handedOut]
    cases hid : s.streams.get? id with
    | none => rfl
    | some source =>
      rw [hid] at herase
      dsimp only
      cases source.feed () with
      | nil => rfl
      | cons item rest =>
        rw [streamLoad_insert, ← herase]
        rfl
  | dropStream id =>
    have herase := streamLoad_erase s.streams id
    simp only [streamsAfter, cursorsAfter, released, handedOut, Stream.load_none]
    omega
  | openCursor id q =>
    simp only [streamsAfter, cursorsAfter, released, handedOut]
    cases s.engine.select q with
    | error e => rfl
    | ok c =>
      have herase := cursorLoad_erase s.cursors id
      simp only [Except.toOption, Option.bind_some, cursorLoad_insert]
      omega
  | nextOfCursor id =>
    have herase := cursorLoad_erase s.cursors id
    simp only [streamsAfter, cursorsAfter, released, handedOut]
    cases hid : s.cursors.get? id with
    | none => rfl
    | some c =>
      have hnext := Cursor.load_next c
      rw [hid] at herase
      simp only [Option.bind_some, cursorLoad_insert, Stream.load_none] at herase ⊢
      omega
  | cancelCursor id =>
    have herase := cursorLoad_erase s.cursors id
    simp only [streamsAfter, cursorsAfter, released, handedOut]
    cases hid : s.cursors.get? id with
    | none => rfl
    | some c =>
      rw [hid] at herase
      simp only [Option.bind_some, cursorLoad_insert, Stream.load_none] at herase ⊢
      exact congrArg (streamLoad s.streams + ·) herase
  | dropCursor id =>
    have herase := cursorLoad_erase s.cursors id
    simp only [streamsAfter, cursorsAfter, released, handedOut, Stream.load_none]
    omega
  | _ => rfl

/-! ## Runs -/

/-- The streams that a session holds, by themselves or in cursors. -/
def held (s : Session) : List Stream :=
  s.streams.values ++ s.cursors.values.filterMap (·.source)

/-- How many counted streams the commands of a run move, of those that each of them moves. -/
def tally (moved : Session → Command → Option Stream) (s : Session) : List Command → Nat
  | [] => 0
  | c :: cs => Stream.load (moved s c) + (s.step c).1.tally moved cs

/-- The store counts what is held, all of it, and every cursor has a stream until its end. -/
structure Balanced (s : Session) : Prop where
  reader : s.readerOf = Store.reader s.geometryTest
  openCursors : s.openCursors = s.load
  counted : s.streams.All (·.counted = true)
  holding : s.cursors.All Cursor.Holding

theorem balanced_start (test : GeometryTest) (config : Config) (ev : Evaluator) :
    (start test config ev (Store.reader test)).Balanced where
  reader := rfl
  openCursors := rfl
  counted := SortedMap.all_empty
  holding := SortedMap.all_empty

theorem Balanced.counted_step (h : s.Balanced) (c : Command) :
    (s.step c).1.streams.All (·.counted = true) := by
  rw [streams_step]
  cases c with
  | openStream id name q =>
    simp only [streamsAfter]
    split
    · next opened => exact h.counted.insert id (Store.counted_openStream opened)
    · exact h.counted
  | nextOfStream id =>
    simp only [streamsAfter]
    split
    · next source found =>
      split
      · exact h.counted
      · exact h.counted.insert id (h.counted id source found)
    · exact h.counted
  | dropStream id => exact h.counted.erase id
  | _ => exact h.counted

theorem Balanced.holding_step (h : s.Balanced) (command : Command) :
    (s.step command).1.cursors.All Cursor.Holding := by
  rw [cursors_step]
  cases command with
  | openCursor id q =>
    simp only [cursorsAfter]
    split
    · next opened => exact h.holding.insert id (holding_select h.reader opened)
    · exact h.holding
  | nextOfCursor id =>
    simp only [cursorsAfter]
    split
    · next c found => exact h.holding.insert id (h.holding id c found).next
    · exact h.holding
  | cancelCursor id =>
    simp only [cursorsAfter]
    split
    · next c found => exact h.holding.insert id (h.holding id c found).cancel
    · exact h.holding
  | dropCursor id => exact h.holding.erase id
  | _ => exact h.holding

theorem Balanced.step (h : s.Balanced) (c : Command) : (s.step c).1.Balanced where
  reader := by rw [readerOf_step, geometryTest_step, h.reader]
  openCursors := by
    have hload := load_step s c
    rw [openCursors_step, h.openCursors]
    omega
  counted := h.counted_step c
  holding := h.holding_step c

theorem Balanced.run (h : s.Balanced) (cs : List Command) : (s.run cs).Balanced := by
  induction cs generalizing s with
  | nil => exact h
  | cons c cs ih => exact ih (h.step c)

/-- Over a run, what is held and what was released is what was held and what was handed out. -/
theorem load_run (s : Session) (cs : List Command) :
    (s.run cs).load + s.tally released cs = s.load + s.tally handedOut cs := by
  induction cs generalizing s with
  | nil => rfl
  | cons c cs ih =>
    have hstep := load_step s c
    have hrun := ih (s.step c).1
    simp only [run_cons, tally]
    omega

theorem Balanced.openCursors_eq (h : s.Balanced) : s.openCursors = s.held.length := by
  have hstreams : s.streams.values.countP (·.counted) = s.streams.values.length :=
    List.countP_eq_length.2 fun t ht => h.counted.of_mem_values ht
  have hcursors : (s.cursors.values.countP fun c => c.source.any (·.counted)) =
      s.cursors.values.countP (·.source.isSome) := by
    refine List.countP_congr fun c hc => ?_
    rw [(h.holding.of_mem_values hc).any_counted]
  rw [h.openCursors, held, List.length_append, List.length_filterMap_eq_countP, ← hstreams,
    ← hcursors]
  rfl

theorem Balanced.length_held (h : s.Balanced) :
    s.held.length = s.streams.size + s.cursors.values.countP (!·.state.isTerminal) := by
  have hcursors : s.cursors.values.countP (·.source.isSome) =
      s.cursors.values.countP (!·.state.isTerminal) := by
    refine List.countP_congr fun c hc => ?_
    rw [(h.holding.of_mem_values hc).isSome_source]
  rw [held, List.length_append, List.length_filterMap_eq_countP, hcursors]
  exact congrArg (· + _) (List.length_map _)

theorem Balanced.openCursors_dropCursor (h : s.Balanced) {id : String} {c : Cursor}
    (hid : s.cursors.get? id = some c) :
    (s.step (.dropCursor id)).1.openCursors + (!c.state.isTerminal).toNat = s.openCursors := by
  have hholding := h.holding id c hid
  have hload := load_step s (.dropCursor id)
  have hreleased : Stream.load (s.released (.dropCursor id)) = (!c.state.isTerminal).toNat := by
    rw [← hholding.isSome_source, ← hholding.any_counted]
    simp [released, hid, Stream.load]
  rw [(h.step _).openCursors, h.openCursors, ← hreleased]
  exact hload

/-! ## Draining -/

/-- Everything but a cursor and the count is as it was. -/
def Beside (id : String) (s t : Session) : Prop :=
  ∃ cursors openCursors, t = { s with cursors, openCursors } ∧ cursors.erase id = s.cursors.erase id

theorem Beside.step {t : Session} {id : String} (h : s.Beside id t) {c : Command}
    (hc : c = .nextOfCursor id ∨ c = .dropCursor id ∨ ∃ q, c = .openCursor id q) :
    s.Beside id (t.step c).1 := by
  obtain ⟨cursors, openCursors, rfl, herase⟩ := h
  have hinsert (d : Cursor) : (cursors.insert id d).erase id = s.cursors.erase id :=
    (SortedMap.erase_insert cursors id d).trans herase
  rcases hc with rfl | rfl | ⟨q, rfl⟩
  · refine ⟨_, _, fst_nextOfCursor _ id, ?_⟩
    simp only [cursorsAfter]
    split
    · exact hinsert _
    · exact herase
  · refine ⟨_, _, fst_dropCursor _ id, ?_⟩
    simp [cursorsAfter, herase, SortedMap.erase_of_get?_eq_none]
  · refine ⟨_, _, fst_openCursor _ id q, ?_⟩
    simp only [cursorsAfter]
    split
    · exact hinsert _
    · exact herase

theorem Beside.replicate {t : Session} {id : String} (h : s.Beside id t) (k : Nat) :
    s.Beside id (t.run (.replicate k (.nextOfCursor id))) := by
  induction k generalizing t with
  | zero => exact h
  | succ k ih => exact ih (h.step (.inl rfl))

/-- A balanced session is settled by what it holds. -/
theorem Balanced.eq_of_beside {t : Session} {id : String} (hs : s.Balanced) (ht : t.Balanced)
    (h : s.Beside id t) (hsid : s.cursors.get? id = none) (htid : t.cursors.get? id = none) :
    t = s := by
  obtain ⟨cursors, openCursors, rfl, herase⟩ := h
  rw [SortedMap.erase_of_get?_eq_none hsid, SortedMap.erase_of_get?_eq_none htid] at herase
  subst herase
  have hcount : openCursors = s.openCursors := ht.openCursors.trans hs.openCursors.symm
  rw [hcount]

theorem get?_run_replicate {id : String} {c : Cursor} (h : s.cursors.get? id = some c) (k : Nat) :
    (s.run (.replicate k (.nextOfCursor id))).cursors.get? id =
      some (c.drive (.replicate k .next)) := by
  induction k generalizing s c with
  | zero => exact h
  | succ k ih =>
    have hstep : (s.step (.nextOfCursor id)).1.cursors.get? id = some c.next.1 := by
      rw [cursors_step]
      simp [cursorsAfter, h]
    exact ih hstep

/-- A cursor that is opened comes to its end. -/
theorem exists_run_isTerminal {id : String} (hid : s.cursors.get? id = none) (q : Request) :
    ∃ k, ∀ c, (s.run (.openCursor id q :: .replicate k (.nextOfCursor id))).cursors.get? id = some c →
      c.state.isTerminal = true := by
  have hopened : (s.step (.openCursor id q)).1.cursors = s.cursorsAfter (.openCursor id q) :=
    cursors_step s _
  cases hselect : s.engine.select q with
  | error e =>
    refine ⟨0, fun c hc => ?_⟩
    simp [hopened, cursorsAfter, hselect, hid] at hc
  | ok c =>
    obtain ⟨plan, source, _, _, hc⟩ := Engine.select_eq_ok hselect
    have hcancelled : c.cancelled = false := by rw [hc]; rfl
    obtain ⟨k, hk⟩ := Cursor.exists_isTerminal_drive hcancelled
    refine ⟨k, fun d hd => ?_⟩
    have hget : (s.step (.openCursor id q)).1.cursors.get? id = some c := by
      simp [hopened, cursorsAfter, hselect]
    rw [run_cons, get?_run_replicate hget] at hd
    rw [← Option.some.inj hd]
    exact hk

/-- A cursor that is read to its end has given its stream up, and dropping it leaves the session as it
    was before. -/
theorem Balanced.run_drain (h : s.Balanced) {id : String} (hid : s.cursors.get? id = none)
    (q : Request) :
    ∃ k, let t := s.run (.openCursor id q :: .replicate k (.nextOfCursor id))
      t.openCursors = s.openCursors ∧ (t.step (.dropCursor id)).1 = s := by
  obtain ⟨k, hk⟩ := exists_run_isTerminal hid q
  refine ⟨k, ?_⟩
  intro t
  -- both sessions are balanced and differ in this cursor alone, so without it they are equal
  have ht : t.Balanced := h.run _
  have hbeside : s.Beside id t :=
    (Beside.step ⟨_, _, rfl, rfl⟩ (.inr (.inr ⟨q, rfl⟩))).replicate k
  have hdropped : (t.step (.dropCursor id)).1 = s := by
    refine h.eq_of_beside (ht.step _) (hbeside.step (.inr (.inl rfl))) hid ?_
    rw [cursors_step]
    exact SortedMap.get?_erase_self _ id
  refine ⟨?_, hdropped⟩
  cases hc : t.cursors.get? id with
  | none => rw [h.eq_of_beside ht hbeside hid hc]
  | some c =>
    have hdrop := ht.openCursors_dropCursor hc
    rw [hdropped, hk c hc] at hdrop
    exact hdrop.symm

/-- However a session came about, its open cursors are the streams that it holds: those with a name,
    and one for each cursor that has not come to an end. They are what was handed out and not released.
    A cursor that is dropped takes its own off, if it has one; one that is read to its end has given it
    up by then, as a scan that is read in one go; and a scan that fails to start changes nothing. -/
theorem openCursors_run (test : GeometryTest) (config : Config) (ev : Evaluator) (cs : List Command) :
    let empty := start test config ev (Store.reader test)
    let s := empty.run cs
    s.openCursors = s.held.length ∧
      s.openCursors = s.streams.size + s.cursors.values.countP (!·.state.isTerminal) ∧
      s.openCursors + empty.tally released cs = empty.tally handedOut cs ∧
      (∀ id c, s.cursors.get? id = some c →
        c.source.isSome = !c.state.isTerminal ∧
          (s.step (.dropCursor id)).1.openCursors + (!c.state.isTerminal).toNat = s.openCursors) ∧
      (∀ id q, s.cursors.get? id = none →
        ∃ k, let t := s.run (.openCursor id q :: .replicate k (.nextOfCursor id))
          t.openCursors = s.openCursors ∧
            (t.step (.dropCursor id)).1 = (s.step (.selectAll q)).1) ∧
      ∀ id q e, s.engine.select q = .error e →
        s.step (.openCursor id q) = (s, .scanError e) ∧ s.step (.selectAll q) = (s, .scanError e) ∧
          s.step (.count q) = (s, .scanError e) := by
  intro empty s
  have hbalanced : s.Balanced := (balanced_start test config ev).run cs
  have hheld := hbalanced.openCursors_eq
  refine ⟨hheld, hheld.trans hbalanced.length_held, ?_, ?_, ?_, ?_⟩
  · have hrun := load_run empty cs
    have hempty : empty.load = 0 := rfl
    rw [hbalanced.openCursors, hrun, hempty, Nat.zero_add]
  · intro id c hid
    exact ⟨(hbalanced.holding id c hid).isSome_source, hbalanced.openCursors_dropCursor hid⟩
  · intro id q hid
    obtain ⟨k, hcount, hdropped⟩ := hbalanced.run_drain hid q
    exact ⟨k, hcount, hdropped.trans (fst_report s _ _).symm⟩
  · intro id q e hselect
    have hall : s.engine.selectAll q = .error e := by rw [Engine.selectAll, hselect]; rfl
    have hcount : s.engine.count q = .error e := by rw [Engine.count, hall]; rfl
    exact ⟨by simp [step, openCursor, hselect], by simp [step, hall, report],
      by simp [step, hcount, report]⟩

/-- Two cursors, of which one came to its end and one did not, and a stream. -/
def reading : List Command :=
  let q : Request := ⟨"c", none, none, none⟩
  [.createCollection "c", .put "c" ⟨"a", .empty, 0, none⟩, .openCursor "x" q, .openCursor "y" q,
    .nextOfCursor "x", .nextOfCursor "y", .nextOfCursor "x", .openStream "z" "c" none]

/-- A scan of a collection that is not there. -/
def missing : Request :=
  ⟨"d", none, none, none⟩

theorem openCursors_run_reading :
    let s := (start .containment {} .containment (Store.reader .containment)).run reading
    s.held.length = 2 ∧ s.openCursors = 2 ∧ (s.step (.dropCursor "x")).1.openCursors = 2 ∧
      (s.step (.dropCursor "y")).1.openCursors = 1 ∧
      s.step (.openCursor "w" missing) =
        (s, .scanError (.storage "d" none (.collectionNotFound "d"))) := by
  intro s
  obtain ⟨hheld, _, _, hcursors, _, hfails⟩ :=
    openCursors_run .containment {} .containment reading
  have hcount : s.openCursors = 2 := by decide +kernel
  obtain ⟨x, hx, hxend⟩ : ∃ c, s.cursors.get? "x" = some c ∧ c.state.isTerminal = true :=
    ⟨_, by rfl, by decide +kernel⟩
  obtain ⟨y, hy, hyend⟩ : ∃ c, s.cursors.get? "y" = some c ∧ c.state.isTerminal = false :=
    ⟨_, by rfl, by decide +kernel⟩
  have hdropx := (hcursors "x" x hx).2
  have hdropy := (hcursors "y" y hy).2
  rw [hxend, hcount] at hdropx
  rw [hyend, hcount] at hdropy
  exact ⟨hheld.symm.trans hcount, hcount, hdropx, Nat.succ.inj hdropy,
    (hfails "w" missing _ (by rfl)).1⟩

end Session

end Quarry

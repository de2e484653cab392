-- SUMMARY: What a running scan yields does not depend on what else happens in its session.
import Quarry.Proofs.Scan.Driving
import Quarry.Proofs.Session.Run

/-!
# Isolation of running scans

A cursor has all that it needs from the moment it is opened: the stream with the records of that
moment, the plan, the evaluator and the cap. Whatever is done with the store, with the policy or with
other cursors between two moves of a cursor, the answers to its moves are those of the cursor alone.
-/

namespace Quarry

/-! ## Moves as commands -/

/-- What a session answers to a move of a cursor. -/
def Cursor.answer (c : Cursor) : Cursor.Move → Answer
  | .next => .step c.next.1 c.next.2
  | .cancel => .cancelled c.cancel

/-- The answers to several moves of a cursor that nothing else is done with. -/
def Cursor.answers (c : Cursor) : List Cursor.Move → List Answer
  | [] => []
  | m :: ms => c.answer m :: (c.move m).answers ms

namespace Command

/-- The command that makes a move with the cursor of a name. -/
def ofMove (id : String) : Cursor.Move → Command
  | .next => .nextOfCursor id
  | .cancel => .cancelCursor id

/-- The move that a command makes with the cursor of a name. -/
def move? (id : String) : Command → Option Cursor.Move
  | .nextOfCursor i => if i = id then some .next else none
  | .cancelCursor i => if i = id then some .cancel else none
  | _ => none

theorem eq_ofMove {id : String} {c : Command} {m : Cursor.Move} (h : c.move? id = some m) :
    c = ofMove id m := by
  cases c with
  | nextOfCursor i =>
    obtain ⟨rfl, rfl⟩ : i = id ∧ Cursor.Move.next = m := by simpa [move?] using h
    rfl
  | cancelCursor i =>
    obtain ⟨rfl, rfl⟩ : i = id ∧ Cursor.Move.cancel = m := by simpa [move?] using h
    rfl
  | _ => contradiction

end Command

namespace Session

variable {s : Session} {id : String} {c : Cursor}

/-! ## Runs with a cursor -/

/-- Whether a command takes the cursor of a name away: it drops it, or opens another one in its place. -/
def takesAway (s : Session) (id : String) : Command → Bool
  | .dropCursor i => i == id
  | .openCursor i q => i == id && (s.engine.select q).isOk
  | _ => false

/-- The moves of the cursor of a name in a run, each with its answer, until it is taken away. -/
def exchange (s : Session) (id : String) : List Command → List (Cursor.Move × Answer)
  | [] => []
  | c :: cs =>
    if s.takesAway id c then []
    else
      match c.move? id with
      | some m => (m, (s.step c).2) :: (s.step c).1.exchange id cs
      | none => (s.step c).1.exchange id cs

/-- A move of a cursor is answered from the cursor, and leaves it moved. -/
theorem step_ofMove (h : s.cursors.get? id = some c) (m : Cursor.Move) :
    (s.step (.ofMove id m)).2 = c.answer m ∧
      (s.step (.ofMove id m)).1.cursors.get? id = some (c.move m) := by
  rw [cursors_step]
  cases m with
  | next => simp [Command.ofMove, step, nextOfCursor, cursorsAfter, h, Cursor.answer, Cursor.move]
  | cancel => simp [Command.ofMove, step, cancelCursor, cursorsAfter, h, Cursor.answer, Cursor.move]

/-- Any other command leaves the cursor as it is. -/
theorem get?_cursors_step (command : Command) (hkept : s.takesAway id command = false)
    (hother : command.move? id = none) : (s.step command).1.cursors.get? id = s.cursors.get? id := by
  rw [cursors_step]
  cases command with
  | openCursor i q =>
    simp only [cursorsAfter]
    cases hselect : s.engine.select q with
    | error e => rfl
    | ok opened =>
      have hne : i ≠ id := by simpa [takesAway, hselect, Except.isOk, Except.toBool] using hkept
      exact SortedMap.get?_insert_of_ne _ _ (Ne.symm hne)
  | nextOfCursor i | cancelCursor i =>
    have hne : i ≠ id := by simpa [Command.move?] using hother
    simp only [cursorsAfter]
    cases s.cursors.get? i with
    | none => rfl
    | some d => exact SortedMap.get?_insert_of_ne _ _ (Ne.symm hne)
  | dropCursor i =>
    have hne : i ≠ id := by simpa [takesAway] using hkept
    exact SortedMap.get?_erase_of_ne _ (Ne.symm hne)
  | _ => rfl

/-- In every run the answers to the moves of a cursor are those of the cursor alone. -/
theorem exchange_answers (h : s.cursors.get? id = some c) (cs : List Command) :
    (s.exchange id cs).map Prod.snd = c.answers ((s.exchange id cs).map Prod.fst) := by
  -- what carries the induction is that the name has the cursor as its moves left it
  induction cs generalizing s c with
  | nil => rfl
  | cons command cs ih =>
    unfold exchange
    cases hkept : s.takesAway id command with
    | true => rfl
    | false =>
      cases hmove : command.move? id with
      | some m =>
        obtain rfl := Command.eq_ofMove hmove
        obtain ⟨hanswer, hmoved⟩ := step_ofMove h m
        simp [Cursor.answers, hanswer, ih hmoved]
      | none =>
        have hcursor := get?_cursors_step command hkept hmove
        exact ih (hcursor.trans h)

/-- A run of nothing but moves of a cursor. -/
theorem answers_ofMove (h : s.cursors.get? id = some c) (ms : List Cursor.Move) :
    s.answers (ms.map (.ofMove id)) = c.answers ms := by
  induction ms generalizing s c with
  | nil => rfl
  | cons m ms ih =>
    obtain ⟨hanswer, hmoved⟩ := step_ofMove h m
    simp [answers, Cursor.answers, hanswer, ih hmoved]

/-- From the opening of a cursor on, whatever is done in between, its moves are answered as in the run
    that has nothing but these moves, and as the cursor by itself answers them. -/
theorem exchange_isolated {q : Request} (h : s.engine.select q = .ok c) (cs : List Command) :
    let opened := (s.step (.openCursor id q)).1
    let moves := (opened.exchange id cs).map Prod.fst
    let answers := (opened.exchange id cs).map Prod.snd
    answers = opened.answers (moves.map (.ofMove id)) ∧ answers = c.answers moves := by
  intro opened moves answers
  have hcursor : opened.cursors.get? id = some c := by
    simp [opened, cursors_step, cursorsAfter, h]
  have hanswers : answers = c.answers moves := exchange_answers hcursor cs
  exact ⟨hanswers.trans (answers_ofMove hcursor moves).symm, hanswers⟩

/-- A session with three records under an index of numbers. -/
def indexed : Session :=
  (start .containment {} .containment (Store.reader .containment)).run
    [.createCollection "c", .createIndex "c" "i" "n" .numeric,
      .put "c" ⟨"a", .ofList [("n", .int 1)], 0, none⟩,
      .put "c" ⟨"b", .ofList [("n", .int 1)], 0, none⟩,
      .put "c" ⟨"d", .ofList [("n", .int 1)], 0, none⟩]

/-- The records with an `n` of 1 at least, which the index finds. -/
def pushing : Request where
  collection := "c"
  tree := some (.leaf ⟨"n", .gtEq, .int 1, none, false, none, by rfl⟩)
  hint := none
  maxRecords := none

/-- What is done while the scan runs: every record that is still to come is changed, and the index and
    the permission to scan are taken away. -/
def meddling : List Command :=
  [.openCursor "y" pushing, .nextOfCursor "x", .put "c" ⟨"b", .ofList [("n", .int 0)], 0, none⟩,
    .nextOfCursor "y", .delete "c" "d", .nextOfCursor "x", .dropIndex "c" "i", .setMaxRecords 0,
    .setScansEnabled false, .nextOfCursor "x", .cancelCursor "y", .nextOfCursor "x"]

theorem exchange_isolated_indexed :
    ∃ c, indexed.engine.select pushing = .ok c ∧
      c.records.toOption.map (·.map Record.key) = some ["a", "b", "d"] ∧
      let opened := (indexed.step (.openCursor "x" pushing)).1
      let moves := (opened.exchange "x" meddling).map Prod.fst
      let answers := (opened.exchange "x" meddling).map Prod.snd
      moves = [.next, .next, .next, .next] ∧
        answers = opened.answers (moves.map (.ofMove "x")) ∧ answers = c.answers moves :=
  ⟨_, rfl, by decide +kernel, by rfl, exchange_isolated rfl meddling⟩

end Session

end Quarry

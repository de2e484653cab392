-- SUMMARY: The records that a cursor yields, as a walk through the items of its stream.
import Quarry.Scan.Engine

/-!
# Walking a stream

A cursor that is drained yields the records of a walk through the items of its stream: rejected
records are passed over, accepted ones are counted, and the walk is over when there are enough of
them, when the stream ends, or at the first error. If all items are records and can be tested, these
are the first accepted records.
-/

namespace Quarry

namespace Cursor

/-! ## Walks -/

section Walk

variable (accepts : Record → Except EvaluationError Bool) (wrap : StoreError → ScanError)

/-- The first accepted records among the items, so many at most, or the first error before that. -/
def walk : Nat → List (Except StoreError Record) → Except ScanError (List Record)
  | 0, _ => .ok []
  | _ + 1, [] => .ok []
  | _ + 1, .error e :: _ => .error (wrap e)
  | n + 1, .ok r :: items =>
    match accepts r with
    | .ok true => (walk n items).map (r :: ·)
    | .ok false => walk (n + 1) items
    | .error e => .error (.evaluation e)

@[simp] theorem walk_zero (items : List (Except StoreError Record)) :
    walk accepts wrap 0 items = .ok [] := by
  unfold walk
  rfl

variable {accepts}

theorem walk_of_accepted {r : Record} (h : accepts r = .ok true) (n : Nat)
    (items : List (Except StoreError Record)) :
    walk accepts wrap (n + 1) (.ok r :: items) = (walk accepts wrap n items).map (r :: ·) := by
  rw [walk, h]

theorem walk_of_rejected {r : Record} (h : accepts r = .ok false) (n : Nat)
    (items : List (Except StoreError Record)) :
    walk accepts wrap (n + 1) (.ok r :: items) = walk accepts wrap (n + 1) items := by
  rw [walk, h]

theorem walk_of_error {r : Record} {e : EvaluationError} (h : accepts r = .error e) (n : Nat)
    (items : List (Except StoreError Record)) :
    walk accepts wrap (n + 1) (.ok r :: items) = .error (.evaluation e) := by
  rw [walk, h]

/-- Without errors the walk finds the first records that satisfy a test. -/
theorem walk_map_ok {test : Record → Bool} {rs : List Record}
    (h : ∀ r ∈ rs, accepts r = .ok (test r)) (n : Nat) :
    walk accepts wrap n (rs.map .ok) = .ok ((rs.filter test).take n) := by
  induction rs generalizing n with
  | nil => cases n <;> rfl
  | cons r rs ih =>
    obtain ⟨hr, hrs⟩ := List.forall_mem_cons.1 h
    cases n with
    | zero => exact walk_zero accepts wrap _
    | succ n =>
      rw [List.map_cons]
      cases htest : test r with
      | true =>
        rw [htest] at hr
        rw [walk_of_accepted wrap hr, ih hrs, List.filter_cons_of_pos htest, List.take_succ_cons]
        rfl
      | false =>
        rw [htest] at hr
        rw [walk_of_rejected wrap hr, ih hrs, List.filter_cons_of_neg (by simp [htest])]

end Walk

/-! ## Verdicts -/

section Verdicts

variable (accepts : Record → Except EvaluationError Bool) (wrap : StoreError → ScanError)

/-- What an item of a stream comes to. A rejected record comes to nothing. -/
def verdict? : Except StoreError Record → Option Item
  | .error e => some (.error (wrap e))
  | .ok r =>
    match accepts r with
    | .ok true => some (.ok r)
    | .ok false => none
    | .error e => some (.error (.evaluation e))

variable {accepts wrap} {r : Record}

theorem verdict?_of_accepted (h : accepts r = .ok true) :
    verdict? accepts wrap (.ok r) = some (.ok r) := by
  simp [verdict?, h]

theorem verdict?_of_rejected (h : accepts r = .ok false) : verdict? accepts wrap (.ok r) = none := by
  simp [verdict?, h]

theorem verdict?_of_error {e : EvaluationError} (h : accepts r = .error e) :
    verdict? accepts wrap (.ok r) = some (.error (.evaluation e)) := by
  simp [verdict?, h]

/-- A walk passes over records that are rejected. -/
theorem walk_of_passed {passed : List Record} (h : ∀ r ∈ passed, accepts r = .ok false) (n : Nat)
    (items : List (Except StoreError Record)) :
    walk accepts wrap (n + 1) (passed.map .ok ++ items) = walk accepts wrap (n + 1) items := by
  induction passed with
  | nil => rfl
  | cons r passed ih =>
    obtain ⟨hr, hpassed⟩ := List.forall_mem_cons.1 h
    rw [List.map_cons, List.cons_append, walk_of_rejected wrap hr, ih hpassed]

/-- A walk ends at an item that comes to an error. -/
theorem walk_of_verdict_error {item : Except StoreError Record} {e : ScanError}
    (h : verdict? accepts wrap item = some (.error e)) (n : Nat)
    (items : List (Except StoreError Record)) :
    walk accepts wrap (n + 1) (item :: items) = .error e := by
  cases item with
  | error fault =>
    obtain rfl := Except.error.inj (Option.some.inj h)
    rfl
  | ok r =>
    cases haccepts : accepts r with
    | error fault =>
      rw [verdict?_of_error haccepts] at h
      rw [walk_of_error wrap haccepts, Except.error.inj (Option.some.inj h)]
    | ok b => cases b <;> simp [verdict?, haccepts] at h

end Verdicts

/-! ## Steps -/

variable {c : Cursor}

/-- What pulling comes to, behind the records that it passes over: the end of the items, an item that
    comes to an error, or a record that is accepted. What follows is left. -/
inductive Pulls (c : Cursor) (counted : Bool) (items : List (Except StoreError Record)) : Step → Prop
  | exhausted {passed : List Record} (rejected : ∀ r ∈ passed, c.accepts r = .ok false)
      (all : items = passed.map .ok) : Pulls c counted items ⟨c.stop .exhausted, none, none⟩
  | failed {passed : List Record} {item : Except StoreError Record} {e : ScanError} {left : Stream}
      (rejected : ∀ r ∈ passed, c.accepts r = .ok false)
      (error : verdict? c.accepts c.storageError item = some (.error e))
      (found : items = passed.map .ok ++ item :: left.items) :
    Pulls c counted items ⟨c.stop .failed, some (.error e), some left⟩
  | accepted {passed : List Record} {r : Record} {left : Stream}
      (rejected : ∀ r ∈ passed, c.accepts r = .ok false) (accepted : c.accepts r = .ok true)
      (counts : left.counted = counted) (found : items = passed.map .ok ++ .ok r :: left.items) :
    Pulls c counted items ⟨c.yielding left, some (.ok r), some left⟩

/-- A rejected record in front makes no difference. -/
theorem Pulls.pass {counted : Bool} {items : List (Except StoreError Record)} {t : Step} {r : Record}
    (h : c.Pulls counted items t) (hr : c.accepts r = .ok false) : c.Pulls counted (.ok r :: items) t := by
  cases h with
  | exhausted rejected all =>
    exact .exhausted (List.forall_mem_cons.2 ⟨hr, rejected⟩) (congrArg (.ok r :: ·) all)
  | failed rejected error found =>
    exact .failed (List.forall_mem_cons.2 ⟨hr, rejected⟩) error (congrArg (.ok r :: ·) found)
  | accepted rejected accepted counts found =>
    exact .accepted (List.forall_mem_cons.2 ⟨hr, rejected⟩) accepted counts (congrArg (.ok r :: ·) found)

theorem pulls_pull (c : Cursor) (counted : Bool) (f : Feed) :
    c.Pulls counted f.toList (c.pull counted f) := by
  induction f with
  | nil => exact .exhausted (List.forall_mem_nil _) rfl
  | cons item rest ih =>
    cases item with
    | error e => exact .failed (List.forall_mem_nil _) rfl rfl
    | ok r =>
      unfold pull
      cases haccepts : c.accepts r with
      | error e => exact .failed (List.forall_mem_nil _) (verdict?_of_error haccepts) rfl
      | ok b =>
        cases b with
        | true => exact .accepted (List.forall_mem_nil _) haccepts rfl rfl
        | false => exact (ih ()).pass haccepts

/-- What a step comes to: nothing once the scan is over, an end if enough was yielded, if the cursor was
    cancelled or has no stream, and otherwise what pulling from its stream comes to. -/
inductive Makes (c : Cursor) : Step → Prop
  | ended (terminal : c.state.isTerminal = true) : Makes c ⟨c, none, c.source⟩
  | full (running : c.state.isTerminal = false) (full : c.cap ≤ c.yielded) :
    Makes c ⟨c.stop .exhausted, none, c.source⟩
  | cancelled (running : c.state.isTerminal = false) (room : c.yielded < c.cap)
      (cancelled : c.cancelled = true) :
    Makes c ⟨c.stop .failed, some (.error (.cancelled c.collection)), c.source⟩
  | released (running : c.state.isTerminal = false) (room : c.yielded < c.cap)
      (wanted : c.cancelled = false) (source : c.source = none) :
    Makes c ⟨c.stop .exhausted, none, none⟩
  | pulled {s : Stream} {t : Step} (running : c.state.isTerminal = false) (room : c.yielded < c.cap)
      (wanted : c.cancelled = false) (source : c.source = some s) (pulls : c.Pulls s.counted s.items t) :
    Makes c t

theorem makes_step (c : Cursor) : c.Makes c.step := by
  unfold step
  split
  · next hstate => exact .ended hstate
  · next hstate =>
    have hrunning := eq_false_of_ne_true hstate
    split
    · next hcap => exact .full hrunning hcap
    · next hcap =>
      have hroom := Nat.lt_of_not_le hcap
      split
      · next hcancelled => exact .cancelled hrunning hroom hcancelled
      · next hcancelled =>
        have hwanted := eq_false_of_ne_true hcancelled
        split
        · next s hsource => exact .pulled hrunning hroom hwanted hsource (c.pulls_pull _ _)
        · next hsource => exact .released hrunning hroom hwanted hsource

/-- The cursor reads from a stream and was not cancelled. -/
structure Running (c : Cursor) (s : Stream) : Prop where
  source : c.source = some s
  notTerminal : c.state.isTerminal = false
  notCancelled : c.cancelled = false

/-- The walk of a cursor through the items that it has left. -/
def walks (c : Cursor) (n : Nat) (items : List (Except StoreError Record)) :
    Except ScanError (List Record) :=
  walk c.accepts c.storageError n items

/-- What pulling finds in the items of a feed, and what a walk finds there. -/
theorem pull_cases (c : Cursor) (counted : Bool) (n : Nat) (f : Feed) :
    ((c.pull counted f).item = none ∧ c.walks (n + 1) f.toList = .ok []) ∨
    (∃ e, (c.pull counted f).item = some (.error e) ∧ c.walks (n + 1) f.toList = .error e) ∨
    ∃ r s, c.pull counted f = ⟨c.yielding s, some (.ok r), some s⟩ ∧
      c.walks (n + 1) f.toList = (c.walks n s.items).map (r :: ·) := by
  unfold walks
  have h := c.pulls_pull counted f
  generalize c.pull counted f = t at h ⊢
  cases h with
  | @exhausted passed rejected all =>
    have hwalk : walk c.accepts c.storageError (n + 1) (passed.map .ok ++ []) = .ok [] :=
      walk_of_passed rejected n []
    rw [List.append_nil, ← all] at hwalk
    exact .inl ⟨rfl, hwalk⟩
  | failed rejected error found =>
    rw [found, walk_of_passed rejected, walk_of_verdict_error error]
    exact .inr (.inl ⟨_, rfl, rfl⟩)
  | accepted rejected accepted _ found =>
    rw [found, walk_of_passed rejected, walk_of_accepted _ accepted]
    exact .inr (.inr ⟨_, _, rfl, rfl⟩)

theorem step_of_running {s : Stream} (h : c.Running s) (hcap : c.yielded < c.cap) :
    c.step = c.pull s.counted (s.feed ()) := by
  unfold step
  rw [h.notTerminal, h.notCancelled, h.source]
  simp [Nat.not_le.2 hcap]

theorem item_step_of_full (h : c.cap ≤ c.yielded) : c.step.item = none := by
  unfold step
  rw [if_pos h]
  split <;> rfl

/-- A cursor that yields the last record that it may comes to its end, and any other goes on with what is
    left. -/
theorem yielding_cases (c : Cursor) (s : Stream) :
    (c.cap ≤ c.yielded + 1 ∧
      c.yielding s = { c with yielded := c.yielded + 1, state := .exhausted, source := none }) ∨
    (c.yielded + 1 < c.cap ∧
      c.yielding s = { c with yielded := c.yielded + 1, state := .streaming, source := some s }) := by
  unfold yielding
  by_cases hcap : c.cap ≤ c.yielded + 1
  · exact .inl ⟨hcap, if_pos hcap⟩
  · exact .inr ⟨Nat.lt_of_not_le hcap, if_neg hcap⟩

theorem running_yielding {s : Stream} (hcancelled : c.cancelled = false)
    (hcap : c.yielded + 1 < c.cap) : (c.yielding s).Running s := by
  rcases c.yielding_cases s with ⟨hfull, -⟩ | ⟨-, hopen⟩
  · omega
  · rw [hopen]
    exact ⟨rfl, rfl, hcancelled⟩

@[simp] theorem yielded_yielding (c : Cursor) (s : Stream) :
    (c.yielding s).yielded = c.yielded + 1 := by
  rcases c.yielding_cases s with ⟨-, h⟩ | ⟨-, h⟩ <;> rw [h]

@[simp] theorem cap_yielding (c : Cursor) (s : Stream) : (c.yielding s).cap = c.cap := by
  rcases c.yielding_cases s with ⟨-, h⟩ | ⟨-, h⟩ <;> rw [h]

/-- Yielding changes nothing that a walk depends on. -/
theorem walks_yielding (c : Cursor) (s : Stream) : (c.yielding s).walks = c.walks := by
  rcases c.yielding_cases s with ⟨-, h⟩ | ⟨-, h⟩
  all_goals
    rw [h]
    rfl

/-! ## Runs -/

theorem drain_of_full (h : c.cap ≤ c.yielded) (fuel : Nat) (taken : List Record) :
    drain fuel taken c = .ok taken.reverse := by
  cases fuel with
  | zero => rfl
  | succ fuel =>
    unfold drain next
    rw [item_step_of_full h]

theorem map_append_of_empty (taken : List Record) :
    (Except.ok [] : Except ScanError (List Record)).map (taken.reverse ++ ·) =
      .ok taken.reverse :=
  congrArg Except.ok (List.append_nil _)

theorem map_append_of_cons (taken : List Record) (r : Record)
    (walked : Except ScanError (List Record)) :
    (walked.map (r :: ·)).map (taken.reverse ++ ·) = walked.map ((r :: taken).reverse ++ ·) := by
  cases walked with
  | error e => rfl
  | ok rs => simp [Except.map]

/-- Draining a running cursor walks through the items that it has left. -/
theorem drain_eq_walks {n : Nat} {s : Stream} (h : c.Running s) (hn : c.yielded + n = c.cap)
    (taken : List Record) :
    drain (n + 1) taken c = (c.walks n s.items).map (taken.reverse ++ ·) := by
  induction n generalizing c s taken with
  | zero =>
    rw [drain_of_full (Nat.le_of_eq hn.symm), walks, walk_zero, map_append_of_empty]
  | succ n ih =>
    have hstep := step_of_running h (by omega)
    rw [drain, next, hstep]
    rcases pull_cases c s.counted n (s.feed ()) with ⟨hpull, hwalks⟩ | ⟨e, hpull, hwalks⟩ |
      ⟨r, left, hpull, hwalks⟩
    · rw [hpull, Stream.items, hwalks, map_append_of_empty]
    · rw [hpull, Stream.items, hwalks]
      rfl
    · rw [hpull, Stream.items, hwalks, map_append_of_cons, ← walks_yielding c left]
      cases n with
      | zero =>
        -- the cap is reached, and the cursor does not read on
        rw [walks, walk_zero, map_append_of_empty]
        exact drain_of_full (by simp; omega) _ _
      | succ n =>
        have hrunning : (c.yielding left).Running left :=
          running_yielding h.notCancelled (by omega)
        exact ih hrunning (by simp; omega) (r :: taken)

/-- A cursor that is started and drained yields the records of a walk through its stream. -/
theorem records_start (collection : String) (ev : Evaluator) (cap : Nat) (plan : Plan)
    (source : Stream) :
    (start collection ev cap plan source).records =
      walk (plan.accepts ev) (.storage collection (plan.pushed.map (·.display))) cap
        source.items := by
  have hrunning : (start collection ev cap plan source).Running source := by
    refine ⟨rfl, ?_, rfl⟩
    unfold start
    dsimp only
    split <;> rfl
  have hdrain := drain_eq_walks hrunning (Nat.zero_add cap) []
  have hwalks : (start collection ev cap plan source).walks cap source.items =
      walk (plan.accepts ev) (.storage collection (plan.pushed.map (·.display))) cap
        source.items := rfl
  rw [hwalks] at hdrain
  refine hdrain.trans ?_
  cases walk (plan.accepts ev) (.storage collection (plan.pushed.map (·.display))) cap
      source.items with
  | error e => rfl
  | ok rs => rfl

end Cursor

/-! ## Starting a scan -/

namespace Plan

variable {plan : Plan} {collection : String}

theorem opening_of_pushed {q : IndexQuery} (h : plan.pushed = some q) :
    plan.opening collection = .query collection q := by
  unfold opening
  rw [h]

theorem opening_of_unpushed (h : plan.pushed = none) : plan.opening collection = .scan collection := by
  unfold opening
  rw [h]

end Plan

namespace Engine

variable {e : Engine} {q : Request} {plan : Plan}

/-- What the reader of the engine gives for a plan. -/
def openPlan (e : Engine) (collection : String) (plan : Plan) : Except StoreError Stream :=
  e.reader.answer (plan.opening collection)

section Effects

variable {m : Type → Type} [Monad m] (ask : Opening → m (Except StoreError Stream))

theorem selectIn_of_refused {err : ScanError}
    (h : Plan.ofRequest e.catalog e.config q.collection q.tree q.hint = .error err) :
    e.selectIn ask q = pure (.error err) := by
  unfold selectIn
  rw [h]

theorem selectIn_of_planned
    (h : Plan.ofRequest e.catalog e.config q.collection q.tree q.hint = .ok plan) :
    e.selectIn ask q = e.concluded q plan <$> ask (plan.opening q.collection) := by
  unfold selectIn
  rw [h]

end Effects

/-- A request that planning refuses is refused. -/
theorem select_of_refused {err : ScanError}
    (h : Plan.ofRequest e.catalog e.config q.collection q.tree q.hint = .error err) :
    e.select q = .error err := by
  unfold select
  rw [selectIn_of_refused _ h]
  rfl

/-- A request with a plan is concluded with the stream that is opened for it. -/
theorem select_of_planned
    (h : Plan.ofRequest e.catalog e.config q.collection q.tree q.hint = .ok plan) :
    e.select q = e.concluded q plan (e.openPlan q.collection plan) := by
  unfold select
  rw [selectIn_of_planned _ h]
  rfl

/-- A scan that starts is that of its plan over the one stream that was opened for it. -/
theorem select_eq_ok {c : Cursor} (h : e.select q = .ok c) :
    ∃ plan source, Plan.ofRequest e.catalog e.config q.collection q.tree q.hint = .ok plan ∧
      e.openPlan q.collection plan = .ok source ∧
      c = .start q.collection e.evaluator (q.maxRecords.getD e.config.maxRecords.toNat) plan source := by
  cases hplan : Plan.ofRequest e.catalog e.config q.collection q.tree q.hint with
  | error err =>
    rw [select_of_refused hplan] at h
    contradiction
  | ok plan =>
    rw [select_of_planned hplan] at h
    cases hopen : e.openPlan q.collection plan with
    | error err =>
      rw [hopen] at h
      contradiction
    | ok source =>
      rw [hopen] at h
      exact ⟨plan, source, rfl, hopen, (Except.ok.inj h).symm⟩

/-- The records of a scan are those of a walk through the stream that was opened for its plan. -/
theorem selectAll_of_openPlan {source : Stream}
    (h : Plan.ofRequest e.catalog e.config q.collection q.tree q.hint = .ok plan)
    (hopen : e.openPlan q.collection plan = .ok source) :
    e.selectAll q =
      Cursor.walk (plan.accepts e.evaluator) (.storage q.collection (plan.pushed.map (·.display)))
        (q.maxRecords.getD e.config.maxRecords.toNat) source.items := by
  unfold selectAll
  rw [select_of_planned h, hopen]
  exact Cursor.records_start ..

end Engine

end Quarry

-- SUMMARY: What a cursor yields, and what it asks of storage, however it is driven.
import Quarry.Proofs.Scan.Walking

/-!
# Driving a cursor

Whoever holds a cursor lets it make steps, and may cancel it in between. The steps before a
cancellation yield one verdict on the items of the stream after the other: an accepted record each,
so many at most, or the first error. The step after a cancellation yields an error that says so,
unless the scan was over before. No step asks storage for an item behind the last verdict.
-/

namespace Quarry

/-- How many answers a stream that is left has still to give: its items, and that there are no more. -/
def Stream.answers : Option Stream → Nat
  | none => 0
  | some s => s.items.length + 1

/-- What is behind an item has the answers that come after it. -/
theorem Stream.answers_of_found {s left : Stream} {passed : List Record}
    {item : Except StoreError Record} (h : s.items = passed.map .ok ++ item :: left.items) :
    answers (some s) = passed.length + 1 + answers (some left) := by
  simp [answers, h]
  omega

namespace Cursor

/-! ## Verdicts -/

section Verdicts

variable (accepts : Record → Except EvaluationError Bool) (wrap : StoreError → ScanError)

/-- The verdicts on all items. -/
def verdicts (items : List (Except StoreError Record)) : List Item :=
  items.filterMap (verdict? accepts wrap)

/-- The verdicts up to the first error, which comes last. -/
def throughError : List Item → List Item
  | [] => []
  | .ok r :: rest => .ok r :: throughError rest
  | .error e :: _ => [.error e]

/-- What a scan yields of the items of a stream: the first verdicts, so many at most, and none behind
    an error. -/
def yields (n : Nat) (items : List (Except StoreError Record)) : List Item :=
  throughError ((verdicts accepts wrap items).take n)

/-- Whether the first `k` requests for an item decide all that a scan yields: the end of the stream is
    among them, or enough verdicts, or an error. -/
def Settled (n k : Nat) (items : List (Except StoreError Record)) : Prop :=
  items.length < k ∨ n ≤ (verdicts accepts wrap (items.take k)).length ∨
    ∃ e, .error e ∈ verdicts accepts wrap (items.take k)

variable {accepts wrap} {n k : Nat} {item : Except StoreError Record}
  {items : List (Except StoreError Record)}

theorem verdicts_cons_of_some {v : Item} (h : verdict? accepts wrap item = some v) :
    verdicts accepts wrap (item :: items) = v :: verdicts accepts wrap items :=
  List.filterMap_cons_some h

theorem verdicts_cons_of_none (h : verdict? accepts wrap item = none) :
    verdicts accepts wrap (item :: items) = verdicts accepts wrap items :=
  List.filterMap_cons_none h

@[simp] theorem yields_zero : yields accepts wrap 0 items = [] := by
  simp [yields, throughError]

@[simp] theorem yields_nil : yields accepts wrap n [] = [] := by
  simp [yields, verdicts, throughError]

theorem yields_of_record {r : Record} (h : verdict? accepts wrap item = some (.ok r)) :
    yields accepts wrap (n + 1) (item :: items) = .ok r :: yields accepts wrap n items := by
  simp [yields, verdicts_cons_of_some h, throughError]

theorem yields_of_error {e : ScanError} (h : verdict? accepts wrap item = some (.error e)) :
    yields accepts wrap (n + 1) (item :: items) = [.error e] := by
  simp [yields, verdicts_cons_of_some h, throughError]

theorem yields_of_none (h : verdict? accepts wrap item = none) :
    yields accepts wrap n (item :: items) = yields accepts wrap n items := by
  simp [yields, verdicts_cons_of_none h]

/-- The first verdict is yielded, whatever it is. -/
theorem head?_yields :
    (yields accepts wrap (n + 1) items).head? = (verdicts accepts wrap items).head? := by
  unfold yields
  cases verdicts accepts wrap items with
  | nil => rfl
  | cons v vs => cases v <;> rfl

theorem verdicts_append (items items' : List (Except StoreError Record)) :
    verdicts accepts wrap (items ++ items') =
      verdicts accepts wrap items ++ verdicts accepts wrap items' :=
  List.filterMap_append

/-- If there is a verdict on the first items, the first verdict is there. -/
theorem head?_verdicts_of_take (h : verdicts accepts wrap (items.take k) ≠ []) :
    (verdicts accepts wrap items).head? = (verdicts accepts wrap (items.take k)).head? := by
  have happend : verdicts accepts wrap (items.take k ++ items.drop k) = _ := verdicts_append _ _
  rw [List.take_append_drop] at happend
  obtain ⟨v, vs, hv⟩ := List.exists_cons_of_ne_nil h
  rw [happend, hv]
  rfl

/-- Records that are rejected have no verdicts. -/
theorem verdicts_map_of_passed {passed : List Record} (h : ∀ r ∈ passed, accepts r = .ok false) :
    verdicts accepts wrap (passed.map .ok) = [] := by
  refine List.filterMap_eq_nil_iff.2 fun item hitem => ?_
  obtain ⟨r, hr, rfl⟩ := List.mem_map.1 hitem
  exact verdict?_of_rejected (h r hr)

theorem verdicts_of_passed {passed : List Record} (h : ∀ r ∈ passed, accepts r = .ok false)
    (items : List (Except StoreError Record)) :
    verdicts accepts wrap (passed.map .ok ++ items) = verdicts accepts wrap items := by
  rw [verdicts_append, verdicts_map_of_passed h, List.nil_append]

theorem yields_of_passed {passed : List Record} (h : ∀ r ∈ passed, accepts r = .ok false)
    (items : List (Except StoreError Record)) :
    yields accepts wrap n (passed.map .ok ++ items) = yields accepts wrap n items := by
  simp [yields, verdicts_of_passed h]

theorem yields_map_of_passed {passed : List Record} (h : ∀ r ∈ passed, accepts r = .ok false) :
    yields accepts wrap n (passed.map .ok) = [] := by
  simp [yields, verdicts_map_of_passed h, throughError]

/-- The records of a walk are those that the scan yields, collected until an error. -/
theorem walk_eq_mapM (n : Nat) (items : List (Except StoreError Record)) :
    walk accepts wrap n items = (yields accepts wrap n items).mapM id := by
  induction items generalizing n with
  | nil => cases n <;> simp [walk, pure, Except.pure]
  | cons item items ih =>
    cases n with
    | zero => simp [pure, Except.pure]
    | succ n =>
      cases item with
      | error e =>
        rw [yields_of_error rfl]
        rfl
      | ok r =>
        cases haccepts : accepts r with
        | error e =>
          rw [walk_of_error wrap haccepts, yields_of_error (verdict?_of_error haccepts)]
          rfl
        | ok b =>
          cases b with
          | true =>
            rw [walk_of_accepted wrap haccepts, yields_of_record (verdict?_of_accepted haccepts),
              List.mapM_cons, ih]
            rfl
          | false =>
            rw [walk_of_rejected wrap haccepts, yields_of_none (verdict?_of_rejected haccepts), ih]

end Verdicts

/-! ## Steps -/

section Steps

variable {c : Cursor}

theorem next_of_terminal (h : c.state.isTerminal = true) : c.next = (c, none) := by
  simp [next, step, h]

theorem next_of_cap_le (h : c.state.isTerminal = false) (hcap : c.cap ≤ c.yielded) :
    c.next = (c.stop .exhausted, none) := by
  simp [next, step, h, hcap]

theorem next_of_cancelled (h : c.state.isTerminal = false) (hcap : c.yielded < c.cap)
    (hcancelled : c.cancelled = true) :
    c.next = (c.stop .failed, some (.error (.cancelled c.collection))) := by
  simp [next, step, h, Nat.not_le.2 hcap, hcancelled]

/-- What the cursor has still to yield, unless it is cancelled. -/
def remaining (c : Cursor) : List Item :=
  match c.source with
  | none => []
  | some s =>
    if c.state.isTerminal then []
    else yields c.accepts c.storageError (c.cap - c.yielded) s.items

@[simp] theorem remaining_stop (c : Cursor) (state : ScanState) : (c.stop state).remaining = [] := rfl

theorem remaining_of_terminal (h : c.state.isTerminal = true) : c.remaining = [] := by
  unfold remaining
  cases c.source <;> simp [h]

theorem remaining_of_cap_le (h : c.cap ≤ c.yielded) : c.remaining = [] := by
  unfold remaining
  cases c.source <;> simp [Nat.sub_eq_zero_of_le h]

theorem remaining_of_released (h : c.source = none) : c.remaining = [] := by
  simp [remaining, h]

theorem remaining_of_source {s : Stream} (h : c.state.isTerminal = false)
    (hsource : c.source = some s) :
    c.remaining = yields c.accepts c.storageError (c.cap - c.yielded) s.items := by
  simp [remaining, h, hsource]

theorem remaining_yielding (c : Cursor) (s : Stream) :
    (c.yielding s).remaining =
      yields c.accepts c.storageError (c.cap - (c.yielded + 1)) s.items := by
  rcases c.yielding_cases s with ⟨hcap, hend⟩ | ⟨-, hopen⟩
  · rw [hend, Nat.sub_eq_zero_of_le hcap, yields_zero]
    rfl
  · rw [hopen]
    rfl

/-- Pulling yields the first verdict and leaves the others. -/
theorem Pulls.yields {counted : Bool} {items : List (Except StoreError Record)} {t : Step}
    (h : c.Pulls counted items t) (hcap : c.yielded < c.cap) :
    let left := yields c.accepts c.storageError (c.cap - c.yielded) items
    t.item = left.head? ∧ t.cursor.remaining = left.tail := by
  obtain ⟨n, hn⟩ : ∃ n, c.cap - c.yielded = n + 1 := ⟨c.cap - c.yielded - 1, by omega⟩
  have hleft : c.cap - (c.yielded + 1) = n := by omega
  rw [hn]
  cases h with
  | exhausted rejected all => simp [all, yields_map_of_passed rejected]
  | failed rejected error found => simp [found, yields_of_passed rejected, yields_of_error error]
  | accepted rejected accepted _ found =>
    simp [found, yields_of_passed rejected, yields_of_record (verdict?_of_accepted accepted),
      remaining_yielding, hleft]

/-- A step of a cursor that is not cancelled yields the first of what remains. -/
theorem next_yields (h : c.cancelled = false) :
    c.next.2 = c.remaining.head? ∧ c.next.1.remaining = c.remaining.tail := by
  have hmakes := c.makes_step
  unfold next
  generalize c.step = t at hmakes ⊢
  cases hmakes with
  | ended terminal => simp [remaining_of_terminal terminal]
  | full running full => simp [remaining_of_cap_le full]
  | cancelled running room cancelled =>
    rw [h] at cancelled
    contradiction
  | released running room wanted source => simp [remaining_of_released source]
  | pulled running room wanted source pulls =>
    rw [remaining_of_source running source]
    exact pulls.yields room

/-- A step changes what is left to read, the state and the count, and nothing else. -/
theorem next_fst_eq (c : Cursor) :
    ∃ source state yielded, c.next.1 = { c with source, state, yielded } := by
  have hmakes := c.makes_step
  unfold next
  generalize c.step = t at hmakes ⊢
  cases hmakes with
  | ended => exact ⟨c.source, c.state, c.yielded, rfl⟩
  | full => exact ⟨none, .exhausted, c.yielded, rfl⟩
  | cancelled => exact ⟨none, .failed, c.yielded, rfl⟩
  | released => exact ⟨none, .exhausted, c.yielded, rfl⟩
  | pulled running room wanted source pulls =>
    cases pulls with
    | exhausted => exact ⟨none, .exhausted, c.yielded, rfl⟩
    | failed => exact ⟨none, .failed, c.yielded, rfl⟩
    | @accepted passed r left =>
      rcases c.yielding_cases left with ⟨-, hend⟩ | ⟨-, hopen⟩
      · exact ⟨none, .exhausted, c.yielded + 1, hend⟩
      · exact ⟨some left, .streaming, c.yielded + 1, hopen⟩

@[simp] theorem collection_next (c : Cursor) : c.next.1.collection = c.collection := by
  obtain ⟨source, state, yielded, h⟩ := next_fst_eq c
  rw [h]

@[simp] theorem cap_next (c : Cursor) : c.next.1.cap = c.cap := by
  obtain ⟨source, state, yielded, h⟩ := next_fst_eq c
  rw [h]

@[simp] theorem cancelled_next (c : Cursor) : c.next.1.cancelled = c.cancelled := by
  obtain ⟨source, state, yielded, h⟩ := next_fst_eq c
  rw [h]

/-- A step counts the record that it yields. -/
theorem yielded_next (c : Cursor) :
    c.next.1.yielded = c.yielded + c.next.2.toList.countP (·.isOk) := by
  have hmakes := c.makes_step
  unfold next
  generalize c.step = t at hmakes ⊢
  cases hmakes with
  | pulled running room wanted source pulls =>
    cases pulls with
    | accepted => simp [Except.isOk, Except.toBool]
    | _ => rfl
  | _ => rfl

/-- A step yields something, or the cursor is at its end after it. -/
theorem isTerminal_next (h : c.next.2 = none) : c.next.1.state.isTerminal = true := by
  have hmakes := c.makes_step
  unfold next at h ⊢
  generalize c.step = t at h hmakes ⊢
  cases hmakes with
  | ended terminal => exact terminal
  | pulled running room wanted source pulls =>
    cases pulls with
    | exhausted => rfl
    | _ => contradiction
  | _ => rfl

/-- A step of a cancelled cursor is its last one. -/
theorem isTerminal_next_of_cancelled (h : c.cancelled = true) : c.next.1.state.isTerminal = true := by
  have hmakes := c.makes_step
  unfold next
  generalize c.step = t at hmakes ⊢
  cases hmakes with
  | ended terminal => exact terminal
  | full | cancelled => rfl
  | released _ _ wanted | pulled _ _ wanted =>
    rw [h] at wanted
    contradiction

end Steps

/-! ## Moves -/

/-- What the holder of a cursor can do with it. -/
inductive Move where
  | next
  | cancel
  deriving DecidableEq

def move (c : Cursor) : Move → Cursor
  | .next => c.next.1
  | .cancel => c.cancel

/-- The cursor after several moves. -/
def drive (c : Cursor) (ms : List Move) : Cursor :=
  ms.foldl move c

section Moves

variable {c : Cursor}

@[simp] theorem drive_nil (c : Cursor) : c.drive [] = c := rfl

@[simp] theorem drive_next (c : Cursor) (ms : List Move) :
    c.drive (.next :: ms) = c.next.1.drive ms := rfl

@[simp] theorem drive_cancel (c : Cursor) (ms : List Move) :
    c.drive (.cancel :: ms) = c.cancel.drive ms := rfl

@[simp] theorem collection_drive (c : Cursor) (ms : List Move) :
    (c.drive ms).collection = c.collection := by
  induction ms generalizing c with
  | nil => rfl
  | cons m ms ih => cases m <;> simp [ih, cancel]

@[simp] theorem cap_drive (c : Cursor) (ms : List Move) : (c.drive ms).cap = c.cap := by
  induction ms generalizing c with
  | nil => rfl
  | cons m ms ih => cases m <;> simp [ih, cancel]

theorem isTerminal_drive (h : c.state.isTerminal = true) (ms : List Move) :
    (c.drive ms).state.isTerminal = true := by
  induction ms generalizing c with
  | nil => exact h
  | cons m ms ih =>
    cases m with
    | next =>
      rw [drive_next, next_of_terminal h]
      exact ih h
    | cancel => exact ih h

/-- Steps without a cancellation yield what remains, one by one. -/
theorem next_drive_replicate (h : c.cancelled = false) (k : Nat) :
    (c.drive (.replicate k .next)).next.2 = c.remaining[k]? := by
  induction k generalizing c with
  | zero => simp [next_yields h, List.head?_eq_getElem?]
  | succ k ih =>
    have hnext : c.next.1.cancelled = false := by simp [h]
    simpa [List.replicate_succ, next_yields h] using ih hnext

/-- A cursor that is stepped often enough comes to its end. -/
theorem exists_isTerminal_drive (h : c.cancelled = false) :
    ∃ k, (c.drive (.replicate k .next)).state.isTerminal = true := by
  have hlast : (c.drive (.replicate c.remaining.length .next)).next.2 = none := by
    rw [next_drive_replicate h, List.getElem?_eq_none (Nat.le_refl _)]
  refine ⟨c.remaining.length + 1, ?_⟩
  rw [List.replicate_succ', drive, List.foldl_append]
  exact isTerminal_next hlast

/-- The count of a cursor is the number of records that it yielded. -/
theorem yielded_drive_replicate (h : c.cancelled = false) (k : Nat) :
    (c.drive (.replicate k .next)).yielded = c.yielded + (c.remaining.take k).countP (·.isOk) := by
  induction k generalizing c with
  | zero => simp
  | succ k ih =>
    have hnext : c.next.1.cancelled = false := by simp [h]
    rw [List.replicate_succ, drive_next, ih hnext, yielded_next, (next_yields h).1, (next_yields h).2]
    cases c.remaining with
    | nil => simp
    | cons item items => simp [List.countP_cons, Nat.add_comm, Nat.add_left_comm]

/-- The first step after a cancellation tells of it, unless the scan is over, and later ones yield
    nothing. -/
theorem next_drive_of_cancelled (h : c.cancelled = true) (ms : List Move) :
    (c.drive ms).next.2 =
      if .next ∉ ms ∧ c.state.isTerminal = false ∧ c.yielded < c.cap then
        some (.error (.cancelled c.collection))
      else none := by
  induction ms generalizing c with
  | nil =>
    cases hstate : c.state.isTerminal with
    | true => simp [next_of_terminal hstate]
    | false =>
      by_cases hcap : c.cap ≤ c.yielded
      · simp [next_of_cap_le hstate hcap, Nat.not_lt.2 hcap]
      · simp [next_of_cancelled hstate (Nat.lt_of_not_le hcap) h, Nat.lt_of_not_le hcap]
  | cons m ms ih =>
    cases m with
    | next =>
      have hend := isTerminal_drive (isTerminal_next_of_cancelled h) ms
      simp [next_of_terminal hend]
    | cancel =>
      rw [drive_cancel, ih rfl]
      by_cases hms : .next ∈ ms <;> simp [hms, cancel]

end Moves

/-! ## Requests to storage -/

/-- How many items a step asks storage for, which are those that it does not leave. Asking at the end
    counts as well. -/
def asks (c : Cursor) : Nat :=
  Stream.answers c.source - Stream.answers c.step.left

/-- How many items the steps among several moves ask storage for. -/
def asked (c : Cursor) : List Move → Nat
  | [] => 0
  | .next :: ms => c.asks + c.next.1.asked ms
  | .cancel :: ms => c.cancel.asked ms

section Requests

variable {c : Cursor} {r : Record}

/-- The answers that a step does not ask for are left. -/
theorem asks_add_left (c : Cursor) :
    c.asks + Stream.answers c.step.left = Stream.answers c.source := by
  have hmakes := c.makes_step
  unfold asks
  generalize c.step = t at hmakes ⊢
  cases hmakes with
  | released running room wanted source => simp [source, Stream.answers]
  | pulled running room wanted source pulls =>
    rw [source]
    cases pulls with
    | exhausted => rfl
    | failed rejected error found => simp [Stream.answers_of_found found]
    | accepted rejected accepted counts found => simp [Stream.answers_of_found found]
  | _ => simp

theorem asks_of_terminal (h : c.state.isTerminal = true) : c.asks = 0 := by
  simp [asks, step, h]

theorem asks_of_cancelled (h : c.cancelled = true) : c.asks = 0 := by
  have hmakes := c.makes_step
  unfold asks
  generalize c.step = t at hmakes ⊢
  cases hmakes with
  | ended | full | cancelled => exact Nat.sub_self _
  | released _ _ wanted | pulled _ _ wanted =>
    rw [h] at wanted
    contradiction

theorem asked_append (c : Cursor) (ms ls : List Move) :
    c.asked (ms ++ ls) = c.asked ms + (c.drive ms).asked ls := by
  induction ms generalizing c with
  | nil => simp [asked]
  | cons m ms ih => cases m <;> simp [asked, ih, Nat.add_assoc]

theorem asked_of_terminal (h : c.state.isTerminal = true) (ms : List Move) : c.asked ms = 0 := by
  induction ms generalizing c with
  | nil => rfl
  | cons m ms ih =>
    cases m with
    | next => simp [asked, asks_of_terminal h, next_of_terminal h, ih h]
    | cancel => exact ih (c := c.cancel) h

/-- A cancelled cursor asks for nothing. -/
theorem asked_of_cancelled (h : c.cancelled = true) (ms : List Move) : c.asked ms = 0 := by
  induction ms generalizing c with
  | nil => rfl
  | cons m ms ih =>
    cases m with
    | next => simp [asked, asks_of_cancelled h, asked_of_terminal (isTerminal_next_of_cancelled h)]
    | cancel => exact ih (c := c.cancel) rfl

end Requests

/-! ## Bounds on requests -/

section Settled

variable {accepts : Record → Except EvaluationError Bool} {wrap : StoreError → ScanError}
  {n k : Nat} {item : Except StoreError Record} {items : List (Except StoreError Record)}

theorem Settled.pos (h : Settled accepts wrap (n + 1) k items) : 0 < k := by
  cases k with
  | zero => simp [Settled, verdicts] at h
  | succ k => exact Nat.succ_pos k

theorem Settled.of_none (hitem : verdict? accepts wrap item = none)
    (h : Settled accepts wrap n (k + 1) (item :: items)) : Settled accepts wrap n k items := by
  simpa [Settled, verdicts_cons_of_none hitem] using h

theorem Settled.of_record {r : Record} (hitem : verdict? accepts wrap item = some (.ok r))
    (h : Settled accepts wrap (n + 1) (k + 1) (item :: items)) : Settled accepts wrap n k items := by
  simpa [Settled, verdicts_cons_of_some hitem] using h

/-- Requests that settle what is behind records that are passed over settle it without them. -/
theorem Settled.of_passed {passed : List Record} (hpassed : ∀ r ∈ passed, accepts r = .ok false)
    (h : Settled accepts wrap (n + 1) k (passed.map .ok ++ items)) :
    passed.length < k ∧ Settled accepts wrap (n + 1) (k - passed.length) items := by
  induction passed generalizing k with
  | nil => exact ⟨h.pos, h⟩
  | cons r passed ih =>
    obtain ⟨hr, hrest⟩ := List.forall_mem_cons.1 hpassed
    obtain ⟨k, rfl⟩ : ∃ j, k = j + 1 := ⟨k - 1, by have := h.pos; omega⟩
    obtain ⟨hlt, hsettled⟩ := ih hrest (h.of_none (verdict?_of_rejected hr))
    refine ⟨Nat.succ_lt_succ hlt, ?_⟩
    rwa [List.length_cons, Nat.add_sub_add_right]

/-- Items that agree as far as it takes to settle one verdict have the same first one. -/
theorem Settled.head?_verdicts_eq {items' : List (Except StoreError Record)}
    (h : Settled accepts wrap 1 k items) (htake : items'.take k = items.take k) :
    (verdicts accepts wrap items').head? = (verdicts accepts wrap items).head? := by
  by_cases hshort : items.length < k
  · rw [List.take_of_length_le (Nat.le_of_lt hshort)] at htake
    have hlength := congrArg List.length htake
    rw [List.length_take] at hlength
    rw [← htake, List.take_of_length_le (by omega)]
  · have hverdicts : verdicts accepts wrap (items.take k) ≠ [] := by
      rcases h with hlt | hcount | ⟨e, he⟩
      · exact absurd hlt hshort
      · exact List.ne_nil_of_length_pos hcount
      · exact List.ne_nil_of_mem he
    rw [head?_verdicts_of_take hverdicts, head?_verdicts_of_take (htake ▸ hverdicts), htake]

/-- One verdict is settled by the requests for the records that are passed over and for its item. -/
theorem Settled.of_found {passed : List Record} (hpassed : ∀ r ∈ passed, accepts r = .ok false)
    {v : Item} (hitem : verdict? accepts wrap item = some v)
    (rest : List (Except StoreError Record)) :
    Settled accepts wrap 1 (passed.length + 1) (passed.map .ok ++ item :: rest) := by
  have htake : (passed.map Except.ok ++ item :: rest).take (passed.length + 1) =
      passed.map Except.ok ++ [item] := by
    simp [List.take_append, List.take_of_length_le]
  refine .inr (.inl ?_)
  rw [htake, verdicts_of_passed hpassed, verdicts_cons_of_some hitem]
  exact Nat.le_add_left 1 _

end Settled

section Bounds

variable {c : Cursor} {counted : Bool} {s : Stream} {t : Step}

/-- What pulling asks for settles its verdict. -/
theorem Pulls.settled (h : c.Pulls counted s.items t) :
    Settled c.accepts c.storageError 1 (Stream.answers (some s) - Stream.answers t.left) s.items := by
  cases h with
  | exhausted => exact .inl (Nat.lt_succ_self _)
  | failed rejected error found =>
    rw [Stream.answers_of_found found, Nat.add_sub_cancel, found]
    exact .of_found rejected error _
  | accepted rejected accepted counts found =>
    rw [Stream.answers_of_found found, Nat.add_sub_cancel, found]
    exact .of_found rejected (verdict?_of_accepted accepted) _

/-- If the first `k` requests settle what is left, pulling makes no more of them, and what it leaves is
    settled by the others. -/
theorem Pulls.asks_le (h : c.Pulls counted s.items t) (hcap : c.yielded < c.cap) {k : Nat}
    (hk : Settled c.accepts c.storageError (c.cap - c.yielded) k s.items) :
    Stream.answers (some s) - Stream.answers t.left ≤ k ∧ (t.cursor.state.isTerminal = true ∨
      ∃ left, t.cursor = c.yielding left ∧
        Settled c.accepts c.storageError (c.cap - (c.yielded + 1))
          (k - (Stream.answers (some s) - Stream.answers t.left)) left.items) := by
  obtain ⟨n, hn⟩ : ∃ n, c.cap - c.yielded = n + 1 := ⟨c.cap - c.yielded - 1, by omega⟩
  have hleft : c.cap - (c.yielded + 1) = n := by omega
  rw [hn] at hk
  rw [hleft]
  cases h with
  | @exhausted passed rejected all =>
    have hall : s.items = passed.map .ok ++ [] := all.trans (List.append_nil _).symm
    have hlt := (Settled.of_passed rejected (hall ▸ hk)).1
    refine ⟨?_, .inl rfl⟩
    simpa [Stream.answers, all] using Nat.succ_le_of_lt hlt
  | failed rejected error found =>
    have hlt := (Settled.of_passed rejected (found ▸ hk)).1
    rw [Stream.answers_of_found found, Nat.add_sub_cancel]
    exact ⟨hlt, .inl rfl⟩
  | @accepted passed r left rejected accepted counts found =>
    obtain ⟨hlt, hsettled⟩ := Settled.of_passed rejected (found ▸ hk)
    rw [Stream.answers_of_found found, Nat.add_sub_cancel]
    refine ⟨hlt, .inr ⟨left, rfl, ?_⟩⟩
    obtain ⟨j, hj⟩ : ∃ j, k - passed.length = j + 1 := ⟨k - passed.length - 1, by omega⟩
    rw [hj] at hsettled
    have hrest : k - (passed.length + 1) = j := by omega
    rw [hrest]
    exact hsettled.of_record (verdict?_of_accepted accepted)

/-- What a step asks for settles what it yields. -/
theorem asks_settles (hstate : c.state.isTerminal = false) (hroom : c.yielded < c.cap)
    (hcancelled : c.cancelled = false) (hsource : c.source = some s) :
    Settled c.accepts c.storageError 1 c.asks s.items := by
  have hpulls := c.pulls_pull s.counted (s.feed ())
  unfold asks
  rw [step_of_running ⟨hsource, hstate, hcancelled⟩ hroom, hsource]
  exact hpulls.settled

/-- A step looks at nothing behind the items that it asks its stream for. -/
theorem next_congr {s t : Stream} (hsource : c.source = some s)
    (h : t.items.take c.asks = s.items.take c.asks) :
    ({ c with source := some t } : Cursor).next.2 = c.next.2 := by
  let d : Cursor := { c with source := some t }
  change d.next.2 = c.next.2
  cases hstate : c.state.isTerminal with
  | true => rw [next_of_terminal hstate, next_of_terminal (c := d) hstate]
  | false =>
    by_cases hcap : c.cap ≤ c.yielded
    · rw [next_of_cap_le hstate hcap, next_of_cap_le (c := d) hstate hcap]
    · have hroom := Nat.lt_of_not_le hcap
      cases hcancelled : c.cancelled with
      | true =>
        rw [next_of_cancelled hstate hroom hcancelled,
          next_of_cancelled (c := d) hstate hroom hcancelled]
      | false =>
        obtain ⟨n, hn⟩ : ∃ n, c.cap - c.yielded = n + 1 := ⟨c.cap - c.yielded - 1, by omega⟩
        have hverdicts := (asks_settles hstate hroom hcancelled hsource).head?_verdicts_eq h
        have hitem : c.next.2 = (verdicts c.accepts c.storageError s.items).head? := by
          rw [(next_yields hcancelled).1, remaining_of_source hstate hsource, hn, head?_yields]
        have hitem' : d.next.2 = (verdicts c.accepts c.storageError t.items).head? := by
          rw [(next_yields (c := d) hcancelled).1, remaining_of_source (c := d) hstate rfl]
          exact (congrArg (fun k => (yields c.accepts c.storageError k t.items).head?) hn).trans
            head?_yields
        rw [hitem, hitem', hverdicts]

/-- However a cursor is driven, it asks for no more than what settles all that it yields. -/
theorem asked_le (ms : List Move) {k : Nat} (h : ∀ s, c.source = some s →
      Settled c.accepts c.storageError (c.cap - c.yielded) k s.items) :
    c.asked ms ≤ k := by
  induction ms generalizing c k with
  | nil => exact Nat.zero_le k
  | cons m ms ih =>
    cases m with
    | cancel => exact ih (c := c.cancel) h
    | next =>
      have hmakes := c.makes_step
      unfold asked asks next
      generalize c.step = t at hmakes ⊢
      cases hmakes with
      | ended terminal => simp [asked_of_terminal terminal]
      | full => simp [asked_of_terminal (c := c.stop .exhausted) rfl]
      | cancelled => simp [asked_of_terminal (c := c.stop .failed) rfl]
      | released _ _ _ source =>
        simp [asked_of_terminal (c := c.stop .exhausted) rfl, source, Stream.answers]
      | @pulled s t running room wanted source pulls =>
        obtain ⟨hle, hends⟩ := pulls.asks_le room (h s source)
        rw [source]
        dsimp only
        rcases hends with hend | ⟨left, hleft, hsettled⟩
        · simpa [asked_of_terminal hend] using hle
        · rw [hleft]
          rcases yielding_cases c left with ⟨-, hend⟩ | ⟨-, hopen⟩
          · have hterminal : (c.yielding left).state.isTerminal = true := by
              rw [hend]
              rfl
            simpa [asked_of_terminal hterminal] using hle
          · have hlater : (c.yielding left).asked ms ≤ _ := ih fun u hu => by
              rw [hopen] at hu ⊢
              cases hu
              exact hsettled
            omega

end Bounds

/-! ## Whole runs -/

/-- The cursor of a plan, driven in any way. Steps before a cancellation yield the verdicts on the items
    of the stream, so many at most and none behind an error; the step after a cancellation tells of it
    if the scan was not over, and all others yield nothing. Storage is asked for no more than what
    settles the verdicts, and not after a cancellation. -/
theorem next_drive_start (collection : String) (ev : Evaluator) (cap : Nat) (plan : Plan)
    (source : Stream) :
    let c := start collection ev cap plan source
    let wrap := ScanError.storage collection (plan.pushed.map (·.display))
    let walked := yields (plan.accepts ev) wrap cap source.items
    (∀ k, (c.drive (.replicate k .next)).next.2 = walked[k]? ∧
      (c.drive (.replicate k .next)).yielded = (walked.take k).countP (·.isOk)) ∧
    (∀ k later, let d := c.drive (.replicate k .next)
      (d.drive (.cancel :: later)).next.2 =
        if .next ∉ later ∧ d.state.isTerminal = false ∧ d.yielded < cap then
          some (.error (.cancelled collection))
        else none) ∧
    (∀ k ms, Settled (plan.accepts ev) wrap cap k source.items → c.asked ms ≤ k) ∧
    (∀ ms later, c.asked (ms ++ .cancel :: later) = c.asked ms) ∧
    (∀ ms s t, let d := c.drive ms
      d.source = some s → t.items.take d.asks = s.items.take d.asks →
        ({ d with source := some t } : Cursor).next.2 = d.next.2) ∧
    c.records = walked.mapM id := by
  intro c wrap walked
  have hremaining : c.remaining = walked := by
    refine remaining_of_source (s := source) ?_ rfl
    cases hscan : plan.isFullScan <;> simp [c, start, hscan, ScanState.isTerminal]
  refine ⟨?_, ?_, ?_, ?_, ?_, ?_⟩
  · intro k
    rw [← hremaining]
    have hyielded := yielded_drive_replicate (c := c) rfl k
    exact ⟨next_drive_replicate rfl k, hyielded.trans (Nat.zero_add _)⟩
  · intro k later d
    have hcancelled := next_drive_of_cancelled (c := d.cancel) rfl later
    have hcollection : d.cancel.collection = collection := collection_drive c _
    have hcap : d.cancel.cap = cap := cap_drive c _
    rw [hcollection, hcap] at hcancelled
    exact hcancelled
  · intro k ms hsettled
    apply asked_le
    intro s hs
    cases hs
    exact hsettled
  · intro ms later
    rw [asked_append]
    exact congrArg (c.asked ms + ·) (asked_of_cancelled (c := (c.drive ms).cancel) rfl later)
  · intro ms s t d hs ht
    exact next_congr hs ht
  · rw [← walk_eq_mapM]
    exact records_start collection ev cap plan source

/-- Two records that are wanted, one between them that is not, and a failure of the medium. -/
def failing : Stream :=
  .ofList [.ok ⟨"a", .ofList [("n", .int 1)], 0, none⟩, .ok ⟨"b", .empty, 0, none⟩,
    .ok ⟨"d", .ofList [("n", .int 1)], 0, none⟩, .error (.storage "disk went away")] true

/-- The records with a positive `n`, found by evaluation. -/
def filtering : Plan where
  pushed := none
  residual := some (.leaf ⟨"n", .gt, .int 0, none, false, none, by rfl⟩)

theorem next_drive_start_failing :
    let c := start "c" .containment 5 filtering failing
    let first := start "c" .containment 1 filtering failing
    (c.drive (.replicate 2 .next)).next.2 =
        some (.error (.storage "c" none (.storage "disk went away"))) ∧
      (c.drive [.next, .cancel]).next.2 = some (.error (.cancelled "c")) ∧
      Settled (filtering.accepts .containment) first.storageError 1 1 failing.items ∧
      first.asked [.next, .next] ≤ 1 := by
  intro c first
  obtain ⟨hnext, hcancelled, _⟩ := next_drive_start "c" .containment 5 filtering failing
  obtain ⟨_, _, hasked, _⟩ := next_drive_start "c" .containment 1 filtering failing
  have hsettled : Settled (filtering.accepts .containment) first.storageError 1 1
      failing.items := .inr (.inl (by decide +kernel))
  exact ⟨(hnext 2).1.trans (by rfl), (hcancelled 1 []).trans (by rfl), hsettled, hasked 1 _ hsettled⟩

end Cursor

end Quarry
